import UtilityCss.Proofs.Compile.Stages
import UtilityCss.Proofs.Statement.Substitution

/-!
# The form of an addition

The tokens of a line that adds rules may stand in any order, but for its values: a unit belongs to
the value directly before it and a comma to the last value.  `Addition.Form` says which lines are
accepted, and `Addition.texts` which values they set, both without a loop that keeps what it has
found so far: a token is judged by the tokens before it (`Addition.Fits`), and a value is written
with the commas that stand between it and the next one.

`Gathered.gather_ok_iff` and `Gathered.values_of_gather` compare the loop with them.  Everything
else on the line is found wherever it stands, so that `Statement.interpret_ok_iff_form` is put
together from one fact for each part.
-/

namespace UtilityCss

/-! ## Tokens -/

namespace Token

/-- Is the token a value, written out or not? -/
def bearsValue : Token → Bool
  | .value _ | .variable _ | .variableRef _ _ => true
  | _ => false

/-- Is the token a value that is written out? -/
def isLiteral : Token → Bool
  | .value _ | .variable _ => true
  | _ => false

/-- Is the token a comma? -/
def isComma : Token → Bool
  | .symbol .comma _ => true
  | _ => false

/-- The variable whose value the token is. -/
def referenced? : Token → Option Text
  | .variableRef name _ => some name
  | _ => none

end Token

/-! ## Which lines are accepted -/

namespace Addition

/-- A token can stand behind the tokens before it: a variable is bound, a unit comes directly after
a literal, and a comma has a value somewhere before it. -/
def Fits (store : Store) (before : List Token) : Token → Prop
  | .variableRef name _ => store.contains name = true
  | .valueType _ => ∃ literal, before.getLast? = some (.value literal)
  | .symbol .comma _ => ∃ token ∈ before, token.bearsValue = true
  | _ => True

/-- The suffixes of a line; where there are none the property is taken as it is. -/
def suffixes (line : List Token) : List (Option Text) :=
  if line.filterMap identifier? = [] then [none] else (line.filterMap identifier?).map some

/-- A line has the form of an addition to the given property. -/
structure Form (store : Store) (line : List Token) (base : Text) : Prop where
  /-- No character is without meaning. -/
  known : ∀ char, .symbol .unknown char ∉ line
  /-- There is one property. -/
  property : line.filterMap property? = [base]
  /-- There is a value. -/
  valued : ∃ token ∈ line, token.bearsValue = true
  /-- Every token can stand where it does. -/
  fits : ∀ before token after, line = before ++ token :: after → Fits store before token
  /-- There is at most one pseudo-class. -/
  pseudoClass : (line.filterMap pseudoClass?).length ≤ 1
  /-- There is at most one media width. -/
  media : (line.filterMap MediaWidth.ofToken?).length ≤ 1
  /-- Every suffix expands the property. -/
  expands : ∀ suffix ∈ suffixes line, ∃ names, expansion base suffix = .ok names

/-! ## What they say -/

/-- The commas before the next value. -/
def commas (tokens : List Token) : Text :=
  List.replicate ((tokens.takeWhile (!·.bearsValue)).countP Token.isComma) ','

/-- The values of a line: the text of each with its unit, and behind it the commas before the next
value. -/
def texts (store : Store) : List Token → List Text
  | [] => []
  | token :: tokens =>
    match Phrase.part? store tokens.head? token with
    | some text => (text ++ commas tokens) :: texts store tokens
    | none => texts store tokens

/-- A rule has what a line says, whichever of the properties it sets. -/
structure Says (store : Store) (line : List Token) (rule : Declaration) : Prop where
  values : rule.values = texts store line
  /-- The class is named after the variables if all values come from variables. -/
  optionalName : ∀ name, rule.optionalName = some name ↔
    line.filterMap Token.referenced? ≠ [] ∧ (∀ token ∈ line, token.isLiteral = false) ∧
      name = Text.join "-" (line.filterMap Token.referenced?)
  pseudoClass : rule.pseudoClass = (line.filterMap pseudoClass?).head?
  media : rule.media = (line.filterMap MediaWidth.ofToken?).head?.bind (·.condition store)

end Addition

variable {store : Store} {line tokens before : List Token} {token : Token}
  {previous following : Option Token}

/-! ## The loop over the values -/

namespace Gathered

open Addition

variable {gathered more : Gathered}

/-- `Gathered.step` sees the values so far and the last token; `started` says that the values stand
for the tokens `before` that `Fits` looks at. -/
lemma step_ok_iff (token : Token) (following : Option Token)
    (started : gathered.values ≠ [] ↔ ∃ token ∈ before, token.bearsValue = true) :
    (∃ more, gathered.step store before.getLast? token following = .ok more) ↔
      Fits store before token := by
  cases token with
  | variableRef name unit =>
    simp only [step, Fits, Store.contains]
    cases store.slots? name <;> simp
  | valueType unit =>
    simp only [step, Fits]
    constructor
    · rintro ⟨more, taken⟩
      split at taken
      · rename_i value
        unfold isValue at value
        split at value
        · exact ⟨_, ‹_›⟩
        · simp at value
      · simp at taken
    · rintro ⟨literal, last⟩
      exact ⟨gathered, by rw [last]; rfl⟩
  | symbol kind char =>
    cases kind with
    | comma =>
      simp only [Fits, ← started]
      simp only [step]
      cases gathered.values <;> simp
    | _ => exact ⟨fun _ => trivial, fun _ => ⟨gathered, rfl⟩⟩
  | _ => exact ⟨fun _ => trivial, fun _ => ⟨_, rfl⟩⟩

/-- The three things that a step does to the values, each with what `texts` and `commas` say of the
token, so that the loop is compared with them case by case. -/
lemma step_values (taken : gathered.step store previous token following = .ok more) :
    (∃ text, Phrase.part? store following token = some text ∧ token.bearsValue = true ∧
      more.values = text :: gathered.values) ∨
    (Phrase.part? store following token = none ∧ token.bearsValue = false ∧
      token.isComma = true ∧ ∃ last values, gathered.values = last :: values ∧
        more.values = (last ++ [',']) :: values) ∨
    (Phrase.part? store following token = none ∧ token.bearsValue = false ∧
      token.isComma = false ∧ more.values = gathered.values) := by
  cases token with
  | value literal =>
    obtain rfl := Except.ok.inj taken
    exact .inl ⟨_, rfl, rfl, rfl⟩
  | «variable» name =>
    obtain rfl := Except.ok.inj taken
    exact .inl ⟨_, rfl, rfl, rfl⟩
  | variableRef name unit =>
    simp only [step] at taken
    cases bound : store.slots? name with
    | none => simp [bound] at taken
    | some slots =>
      rw [bound] at taken
      obtain rfl := Except.ok.inj taken
      exact .inl ⟨Slot.renderAll slots unit, by rw [Phrase.part?, bound]; rfl, rfl, rfl⟩
  | valueType unit =>
    simp only [step] at taken
    split at taken
    · obtain rfl := Except.ok.inj taken
      exact .inr (.inr ⟨rfl, rfl, rfl, rfl⟩)
    · simp at taken
  | symbol kind char =>
    cases kind with
    | comma =>
      simp only [step] at taken
      split at taken
      · simp at taken
      · rename_i last values shape
        obtain rfl := Except.ok.inj taken
        exact .inr (.inl ⟨rfl, rfl, rfl, last, values, shape, rfl⟩)
    | _ =>
      obtain rfl := Except.ok.inj taken
      exact .inr (.inr ⟨rfl, rfl, rfl, rfl⟩)
  | _ =>
    obtain rfl := Except.ok.inj taken
    exact .inr (.inr ⟨rfl, rfl, rfl, rfl⟩)

lemma step_started (taken : gathered.step store previous token following = .ok more) :
    more.values ≠ [] ↔ gathered.values ≠ [] ∨ token.bearsValue = true := by
  rcases step_values taken with ⟨text, -, bears, added⟩ |
    ⟨-, none, -, last, values, shape, closed⟩ | ⟨-, none, -, same⟩
  · simp [added, bears]
  · simp [shape, closed]
  · simp [same, none]

/-- The invariant `started` of `step_ok_iff` at the end of the loop, where `Addition.read` asks
whether there are any values. -/
lemma gather_started (taken : gathered.gather store previous tokens = .ok more) :
    more.values ≠ [] ↔ gathered.values ≠ [] ∨ ∃ token ∈ tokens, token.bearsValue = true := by
  induction tokens generalizing gathered previous with
  | nil =>
    obtain rfl := Except.ok.inj taken
    simp
  | cons token tokens ih =>
    obtain ⟨next, here, later⟩ := bind_eq_ok_iff.1 taken
    rw [ih later, step_started here, or_assoc, List.exists_mem_cons_iff]

/-- Induction on the tokens, with those that were read moved to `before`; at the start of a line
`before` is empty and `Fits` looks at the line alone. -/
theorem gather_ok_iff (before : List Token)
    (started : gathered.values ≠ [] ↔ ∃ token ∈ before, token.bearsValue = true) :
    (∃ more, gathered.gather store before.getLast? tokens = .ok more) ↔
      ∀ earlier token later, tokens = earlier ++ token :: later →
        Fits store (before ++ earlier) token := by
  induction tokens generalizing gathered before with
  | nil => simp [gather]
  | cons token tokens ih =>
    have here : (∃ next, gathered.step store before.getLast? token tokens.head? = .ok next) ↔
        Fits store before token := step_ok_iff token tokens.head? started
    have onward {next : Gathered}
        (taken : gathered.step store before.getLast? token tokens.head? = .ok next) :
        (∃ more, next.gather store (some token) tokens = .ok more) ↔
          ∀ earlier other later, tokens = earlier ++ other :: later →
            Fits store (before ++ [token] ++ earlier) other := by
      rw [← List.getLast?_concat (l := before) (a := token)]
      refine ih (before ++ [token]) ?_
      rw [step_started taken, started]
      simp [or_and_right, exists_or]
    constructor
    · rintro ⟨more, taken⟩ earlier other later split
      obtain ⟨next, first, rest⟩ := bind_eq_ok_iff.1 taken
      cases earlier with
      | nil =>
        obtain ⟨rfl, -⟩ := List.cons.inj split
        rw [List.append_nil]
        exact here.1 ⟨next, first⟩
      | cons start earlier =>
        obtain ⟨rfl, beyond⟩ := List.cons.inj split
        rw [List.append_cons]
        exact (onward first).1 ⟨more, rest⟩ earlier other later beyond
    · intro fits
      have first := fits [] token tokens rfl
      rw [List.append_nil] at first
      obtain ⟨next, taken⟩ := here.2 first
      obtain ⟨more, rest⟩ := (onward taken).2 fun earlier other later split => by
        have fit := fits (token :: earlier) other later (congrArg (token :: ·) split)
        rwa [List.append_cons] at fit
      exact ⟨more, bind_eq_ok_iff.2 ⟨next, taken, rest⟩⟩

/-! ## What the loop gathers -/

/-- The values, of which the last comes first, with commas behind the last one. -/
def closed (commas : Text) : List Text → List Text
  | [] => []
  | last :: values => (last ++ commas) :: values

lemma closed_nil (values : List Text) : closed [] values = values := by
  cases values <;> simp [closed]

lemma commas_of_bears (bears : token.bearsValue = true) : commas (token :: tokens) = [] := by
  simp [commas, bears]

lemma commas_of_comma (none : token.bearsValue = false) (comma : token.isComma = true) :
    commas (token :: tokens) = ',' :: commas tokens := by
  simp [commas, none, comma, List.replicate_succ]

lemma commas_of_other (none : token.bearsValue = false) (other : token.isComma = false) :
    commas (token :: tokens) = commas tokens := by
  simp [commas, none, other]

/-- Generalised over what was gathered before, since the commas before the first value of `tokens`
are set behind the last value there (`closed`). -/
theorem values_of_gather (taken : gathered.gather store previous tokens = .ok more) :
    more.values = (texts store tokens).reverse ++ closed (commas tokens) gathered.values := by
  induction tokens generalizing gathered previous with
  | nil =>
    obtain rfl := Except.ok.inj taken
    exact (closed_nil gathered.values).symm
  | cons token tokens ih =>
    obtain ⟨next, here, later⟩ := bind_eq_ok_iff.1 taken
    rw [ih later, texts]
    rcases step_values here with ⟨text, part, bears, added⟩ |
      ⟨part, none, comma, last, values, shape, behind⟩ | ⟨part, none, other, same⟩
    · rw [commas_of_bears bears, closed_nil]
      simp only [part, added, closed, List.reverse_cons, List.append_assoc, List.singleton_append]
    · simp only [part, shape, behind, commas_of_comma none comma, closed, List.append_assoc,
        List.singleton_append]
    · simp only [part, same, commas_of_other none other]

lemma step_names (taken : gathered.step store previous token following = .ok more) :
    more.references = token.referenced?.toList ++ gathered.references ∧
      more.literal = (gathered.literal || token.isLiteral) := by
  have kept (same : more = gathered) (none : token.referenced? = none)
      (other : token.isLiteral = false) :
      more.references = token.referenced?.toList ++ gathered.references ∧
        more.literal = (gathered.literal || token.isLiteral) := by
    simp [same, none, other]
  cases token with
  | value | «variable» =>
    obtain rfl := Except.ok.inj taken
    simp [addLiteral, Token.referenced?, Token.isLiteral]
  | variableRef name unit =>
    simp only [step] at taken
    split at taken
    · simp at taken
    · obtain rfl := Except.ok.inj taken
      simp [addReference, Token.referenced?, Token.isLiteral]
  | valueType unit =>
    simp only [step] at taken
    split at taken
    · exact kept (Except.ok.inj taken).symm rfl rfl
    · simp at taken
  | symbol kind char =>
    cases kind with
    | comma =>
      simp only [step] at taken
      split at taken
      · simp at taken
      · obtain rfl := Except.ok.inj taken
        simp [Token.referenced?, Token.isLiteral]
    | _ => exact kept (Except.ok.inj taken).symm rfl rfl
  | _ => exact kept (Except.ok.inj taken).symm rfl rfl

/-- The two fields that `Gathered.name?` makes the optional name of, read off the tokens. -/
lemma names_of_gather (taken : gathered.gather store previous tokens = .ok more) :
    more.references = (tokens.filterMap Token.referenced?).reverse ++ gathered.references ∧
      more.literal = (gathered.literal || tokens.any Token.isLiteral) := by
  induction tokens generalizing gathered previous with
  | nil =>
    obtain rfl := Except.ok.inj taken
    simp
  | cons token tokens ih =>
    obtain ⟨next, here, later⟩ := bind_eq_ok_iff.1 taken
    obtain ⟨references, literal⟩ := ih later
    rw [references, literal, (step_names here).1, (step_names here).2]
    cases refers : token.referenced? <;> simp [refers, Bool.or_assoc]

lemma name?_eq_some_iff {name : Text} :
    gathered.name? = some name ↔ gathered.references ≠ [] ∧ gathered.literal = false ∧
      name = Text.join "-" gathered.references.reverse := by
  unfold name?
  split
  · rename_i named
    simp [named.1, by simpa using named.2, eq_comm]
  · rename_i unnamed
    constructor
    · intro absent
      simp at absent
    · rintro ⟨references, literal, -⟩
      exact absurd ⟨references, by simp [literal]⟩ unnamed

end Gathered

/-! ## The other parts of the line -/

namespace Addition

variable {base : Text} {addition : Addition} {names : List Text}

lemma singleProperty_eq_ok_iff :
    singleProperty line = .ok base ↔ line.filterMap property? = [base] := by
  unfold singleProperty
  split
  · rename_i none
    simp [none]
  · rename_i name single
    simp [single]
  · rename_i none other
    constructor
    · intro refused
      simp at refused
    · intro single
      exact absurd single (other base)

lemma atMostOne_ok_iff {α : Type} {fault : StatementFault} {found : List α} :
    (∃ one, atMostOne fault found = .ok one) ↔ found.length ≤ 1 := by
  rcases found with _ | ⟨first, _ | ⟨second, rest⟩⟩
  · simp [atMostOne]
  · simp [atMostOne]
  · simp [atMostOne]

/-- `Addition.read` as a conjunction: its tests do not depend on each other, so that acceptance and
what is said can be taken from the same form. -/
lemma read_eq_ok_iff :
    read store line = .ok addition ↔
      ∃ base gathered pseudoClass media, line.filterMap property? = [base] ∧
        Gathered.empty.gather store none line = .ok gathered ∧
        atMostOne .manyPseudoClasses (line.filterMap pseudoClass?) = .ok pseudoClass ∧
        atMostOne .manyMediaConditions (line.filterMap MediaWidth.ofToken?) = .ok media ∧
        ∃ given : gathered.values ≠ [], addition =
          { base, identifiers := line.filterMap identifier?, values := gathered.values.reverse
            optionalName := gathered.name?, pseudoClass, media
            values_ne_nil := by simpa using given } := by
  constructor
  · intro taken
    obtain ⟨base, single, taken⟩ := bind_eq_ok_iff.1 taken
    obtain ⟨gathered, values, taken⟩ := bind_eq_ok_iff.1 taken
    split at taken
    · simp at taken
    · rename_i given
      obtain ⟨pseudoClass, oneClass, taken⟩ := bind_eq_ok_iff.1 taken
      obtain ⟨media, oneWidth, taken⟩ := bind_eq_ok_iff.1 taken
      exact ⟨base, gathered, pseudoClass, media, singleProperty_eq_ok_iff.1 single, values,
        oneClass, oneWidth, given, (Except.ok.inj taken).symm⟩
  · rintro ⟨base, gathered, pseudoClass, media, single, values, oneClass, oneWidth, given, rfl⟩
    refine bind_eq_ok_iff.2 ⟨base, singleProperty_eq_ok_iff.2 single,
      bind_eq_ok_iff.2 ⟨gathered, values, ?_⟩⟩
    rw [dif_neg given]
    exact bind_eq_ok_iff.2 ⟨pseudoClass, oneClass, bind_eq_ok_iff.2 ⟨media, oneWidth, rfl⟩⟩

/-- All conditions of `Form` but two: `known`, which is tested before the line is read, and
`expands`, which is tested after it. -/
lemma read_ok_iff :
    (∃ addition, read store line = .ok addition) ↔
      (∃ base, line.filterMap property? = [base]) ∧ (∃ token ∈ line, token.bearsValue = true) ∧
        (∀ before token after, line = before ++ token :: after → Fits store before token) ∧
        (line.filterMap pseudoClass?).length ≤ 1 ∧
        (line.filterMap MediaWidth.ofToken?).length ≤ 1 := by
  have loop : (∃ gathered, Gathered.empty.gather store none line = .ok gathered) ↔
      ∀ before token after, line = before ++ token :: after → Fits store before token :=
    Gathered.gather_ok_iff [] (by simp [Gathered.empty])
  constructor
  · rintro ⟨addition, taken⟩
    obtain ⟨base, gathered, pseudoClass, media, single, values, oneClass, oneWidth, given, -⟩ :=
      read_eq_ok_iff.1 taken
    have valued : ∃ token ∈ line, token.bearsValue = true :=
      ((Gathered.gather_started values).1 given).resolve_left (by simp [Gathered.empty])
    exact ⟨⟨base, single⟩, valued, loop.1 ⟨gathered, values⟩,
      atMostOne_ok_iff.1 ⟨pseudoClass, oneClass⟩, atMostOne_ok_iff.1 ⟨media, oneWidth⟩⟩
  · rintro ⟨⟨base, single⟩, valued, fits, oneClass, oneWidth⟩
    obtain ⟨gathered, values⟩ := loop.2 fits
    obtain ⟨pseudoClass, oneClass⟩ := atMostOne_ok_iff.2 oneClass
    obtain ⟨media, oneWidth⟩ := atMostOne_ok_iff.2 oneWidth
    have given := (Gathered.gather_started values).2 (.inr valued)
    exact ⟨_, read_eq_ok_iff.2 ⟨base, gathered, pseudoClass, media, single, values, oneClass,
      oneWidth, given, rfl⟩⟩

/-- The fields of `Says` one by one, from `Gathered.values_of_gather`, `Gathered.names_of_gather`
and `findSome?_of_atMostOne`. -/
lemma said_of_read (taken : read store line = .ok addition) :
    line.filterMap property? = [addition.base] ∧
      addition.identifiers = line.filterMap identifier? ∧
      ∀ name, Says store line (addition.declaration store name) := by
  obtain ⟨base, gathered, pseudoClass, media, single, values, oneClass, oneWidth, given, rfl⟩ :=
    read_eq_ok_iff.1 taken
  refine ⟨single, rfl, fun property => ⟨?_, fun name => ?_, ?_, ?_⟩⟩
  · change gathered.values.reverse = _
    rw [Gathered.values_of_gather values]
    simp [Gathered.empty, Gathered.closed]
  · change gathered.name? = some name ↔ _
    obtain ⟨references, literal⟩ := Gathered.names_of_gather values
    rw [Gathered.name?_eq_some_iff, references, literal]
    simp [Gathered.empty]
  · rw [List.head?_filterMap]
    exact (findSome?_of_atMostOne oneClass).symm
  · rw [List.head?_filterMap, findSome?_of_atMostOne oneWidth]
    rfl

/-- `Addition.properties` treats a line without suffixes apart; `suffixes` makes it a line with the
one suffix `none`. -/
lemma properties_eq_ok_iff (suffixed : addition.identifiers = line.filterMap identifier?) :
    addition.properties = .ok names ↔
      ∃ listed, (suffixes line).mapM (expansion addition.base) = .ok listed ∧
        names = listed.flatten := by
  unfold properties suffixes
  rw [suffixed]
  split
  · rw [List.mapM_cons, List.mapM_nil]
    cases expansion addition.base none with
    | error fault => simp [bind, Except.bind]
    | ok own => simp [bind, Except.bind, pure, Except.pure, eq_comm]
  · rw [bind_eq_ok_iff, List.mapM_map]
    simp only [Except.ok.injEq, Function.comp_def, @eq_comm _ names]

end Addition

/-! ## The line -/

namespace Statement

open Addition

lemma unknown?_eq_some_iff {char : Text} :
    unknown? token = some char ↔ token = .symbol .unknown char := by
  unfold unknown?
  split
  · simp
  · rename_i other
    simpa using other char

lemma refuseUnknown_ok_iff {keyword : Text} :
    refuseUnknown keyword line = .ok () ↔ ∀ char, .symbol .unknown char ∉ line := by
  unfold refuseUnknown
  split
  · rename_i char found
    obtain ⟨token, mem, shape⟩ := List.exists_of_findSome?_eq_some found
    obtain rfl := unknown?_eq_some_iff.1 shape
    simpa using ⟨char, mem⟩
  · rename_i none
    have meant := List.findSome?_eq_none_iff.1 none
    refine ⟨fun _ char mem => ?_, fun _ => rfl⟩
    exact absurd (meant _ mem) (by simp [unknown?])

lemma addition_eq_ok_iff {made : Addition} :
    addition store line = .ok made ↔
      (∀ char, .symbol .unknown char ∉ line) ∧ Addition.read store line = .ok made := by
  rw [addition, bind_eq_ok_iff]
  constructor
  · rintro ⟨⟨⟩, known, read⟩
    exact ⟨refuseUnknown_ok_iff.1 known, read⟩
  · rintro ⟨known, read⟩
    exact ⟨(), refuseUnknown_ok_iff.2 known, read⟩

/-- Comments and markers are all that `interpret` looks for before it asks for a keyword. -/
lemma interpret_eq_effect
    (start : ∀ token ∈ line.head?, token.kind ≠ .comment ∧ token.kind ≠ .layer) :
    interpret store line = effect store line := by
  cases line with
  | nil => rfl
  | cons token rest =>
    have start := start token rfl
    cases token with
    | comment => exact absurd rfl start.1
    | layer => exact absurd rfl start.2
    | _ => rfl

/-- `StatementFault.integerTooLong` is the one fault that is not reported, and it comes from
splitting the literals of definitions. -/
lemma reports_of_add (single : keyword line = .ok "ADD") : Reports (effect store line) := by
  unfold effect
  rw [single]
  exact ((formal_addition store line).mono fun _ formal => formal.reported).bind fun addition _ =>
    (addition.fails_declarations store addition.reports_properties).bind fun _ _ => fails_ok _

/-- A line whose one keyword adds rules, and which does not begin with a comment, is accepted
exactly when it has the form of an addition (`Form`), and else it is refused with a fault that is
reported.  It adds its comments and then one rule for each property that its suffixes name, in their
order, and all of these rules say the same (`Says`). -/
theorem interpret_ok_iff_form (store : Store) (line : List Token)
    (start : ∀ token ∈ line.head?, token.kind ≠ .comment ∧ token.kind ≠ .layer)
    (single : line.filterMap keyword? = ["ADD".toList]) :
    ((∃ effect, interpret store line = .ok effect) ↔ ∃ base, Form store line base) ∧
    (∀ fault, interpret store line = .error fault →
      (Error.semantic fault).stage? = some .semantic) ∧
    ∀ effect, interpret store line = .ok effect →
      effect.assignment = none ∧ ∃ (base : Text) (listed : List (List Text))
          (rules : List Declaration),
        line.filterMap property? = [base] ∧
        (suffixes line).mapM (expansion base) = .ok listed ∧
        effect.records = line.filterMap comment? ++ rules.map .rule ∧
        rules.map Declaration.property = listed.flatten ∧
        ∀ rule ∈ rules, Says store line rule := by
  have added : keyword line = .ok "ADD" := by
    rw [keyword, single]
  rw [interpret_eq_effect start]
  refine ⟨⟨?_, ?_⟩, ?_, ?_⟩
  · rintro ⟨effect, taken⟩
    obtain ⟨made, declarations, read, declared, -⟩ := (effect_of_add added).1 taken
    obtain ⟨known, read⟩ := addition_eq_ok_iff.1 read
    obtain ⟨names, named, -⟩ := bind_eq_ok_iff.1 declared
    obtain ⟨property, suffixed, -⟩ := said_of_read read
    obtain ⟨listed, expanded, -⟩ := (properties_eq_ok_iff suffixed).1 named
    obtain ⟨-, valued, fits, oneClass, oneWidth⟩ := read_ok_iff.1 ⟨made, read⟩
    exact ⟨made.base, known, property, valued, fits, oneClass, oneWidth,
      exists_mapM_eq_ok_iff.1 ⟨listed, expanded⟩⟩
  · rintro ⟨base, form⟩
    obtain ⟨made, read⟩ := read_ok_iff.2
      ⟨⟨base, form.property⟩, form.valued, form.fits, form.pseudoClass, form.media⟩
    obtain ⟨property, suffixed, -⟩ := said_of_read read
    obtain rfl : base = made.base := by simpa [form.property] using property
    obtain ⟨listed, expanded⟩ := exists_mapM_eq_ok_iff.2 form.expands
    have named := (properties_eq_ok_iff suffixed).2 ⟨listed, expanded, rfl⟩
    exact ⟨_, (effect_of_add added).2 ⟨made, _, addition_eq_ok_iff.2 ⟨form.known, read⟩,
      bind_eq_ok_iff.2 ⟨_, named, rfl⟩, rfl⟩⟩
  · intro fault refused
    exact (reports_of_add added fault refused).stage
  · intro effect taken
    obtain ⟨made, declarations, read, declared, rfl⟩ := (effect_of_add added).1 taken
    obtain ⟨-, read⟩ := addition_eq_ok_iff.1 read
    obtain ⟨names, named, declared⟩ := bind_eq_ok_iff.1 declared
    obtain rfl := Except.ok.inj declared
    obtain ⟨property, suffixed, said⟩ := said_of_read read
    obtain ⟨listed, expanded, rfl⟩ := (properties_eq_ok_iff suffixed).1 named
    refine ⟨rfl, made.base, listed, _, property, expanded, rfl, ?_, ?_⟩
    · rw [List.map_map]
      exact List.map_id _
    · intro rule mem
      obtain ⟨name, -, rfl⟩ := List.mem_map.1 mem
      exact said name

/-- The keyword stands between the values, and the property behind them all. -/
def scattered : List Token :=
  [.value (.integer 4), .valueType "px", .symbol .comma [], .identifier "block", .keyword "ADD",
    .variableRef "gap" none, .property "border", .comment .shown "note", .identifier "bottom"]

theorem interpret_ok_iff_form_scattered :
    (∃ effect base, interpret Program.twoGaps scattered = .ok effect ∧
        Form Program.twoGaps scattered base) ∧
      texts Program.twoGaps scattered = ["4px,".toList, "1px 2,".toList] ∧
      interpret .empty scattered = .error (.unboundVariable "gap") ∧
      (Error.semantic (.unboundVariable "gap")).stage? = some .semantic ∧
      ¬ ∃ base, Form .empty scattered base := by
  have start : ∀ token ∈ scattered.head?, token.kind ≠ .comment ∧ token.kind ≠ .layer := by
    rintro token ⟨⟩
    decide
  have single : scattered.filterMap keyword? = ["ADD".toList] := rfl
  have bound := interpret_ok_iff_form Program.twoGaps scattered start single
  have unbound := interpret_ok_iff_form .empty scattered start single
  obtain ⟨effect, accepted⟩ : ∃ effect, interpret Program.twoGaps scattered = .ok effect := ⟨_, rfl⟩
  have refused : interpret .empty scattered = .error (.unboundVariable "gap") := rfl
  obtain ⟨base, form⟩ := bound.1.1 ⟨effect, accepted⟩
  refine ⟨⟨effect, base, accepted, form⟩, rfl, refused, unbound.2.1 _ refused, fun form => ?_⟩
  obtain ⟨effect, taken⟩ := unbound.1.2 form
  simp [refused] at taken

end Statement

end UtilityCss
