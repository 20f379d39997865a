import UtilityCss.Machine.Interpreter
import UtilityCss.Proofs.Machine.Scanner
import UtilityCss.Proofs.Statement.Grouping
import UtilityCss.Proofs.Store.Literal

/-!
# The interpreter does what the program does

`Interpreter.report` turns the answers of `Program` into those of the interpreter, and every
function of the interpreter is shown to be the reported form of its counterpart.  What the
interpreter asserts it may assert: a bucket holds tokens of one class, because the kind of a token
tells its class (`IsClass.bucket_eq`); a number that was split off has digits
(`skip_number_ne_nil`); the values of an addition were checked before its declarations are built
(`declarations_of_addition`); and no line of a program is empty (`parse_eq`).

With `Scanner.tokens_eq` this gives the main statement `Machine.compile_eq`.
-/

namespace UtilityCss

namespace Interpreter

variable {line : List Token} {store : Store} {α β : Type}

/-! ## Kinds and classes -/

/-- The tokens of a kind are those that `make` builds, and `read` finds out what they hold. -/
structure IsClass (kind : TokenKind) (read : Token → Option α) (make : α → Token) : Prop where
  kind_make (content : α) : (make content).kind = kind
  read_make (content : α) : read (make content) = some content
  exists_make (token : Token) (same : token.kind = kind) : ∃ content, token = make content
  read_other (token : Token) (other : token.kind ≠ kind) : read token = none

lemma keyword_isClass : IsClass .keyword Statement.keyword? Token.keyword where
  kind_make _ := rfl
  read_make _ := rfl
  exists_make token same := by cases token <;> simp_all [Token.kind]
  read_other token other := by cases token <;> simp_all [Token.kind, Statement.keyword?]

lemma property_isClass : IsClass .property Addition.property? Token.property where
  kind_make _ := rfl
  read_make _ := rfl
  exists_make token same := by cases token <;> simp_all [Token.kind]
  read_other token other := by cases token <;> simp_all [Token.kind, Addition.property?]

lemma identifier_isClass : IsClass .identifier Addition.identifier? Token.identifier where
  kind_make _ := rfl
  read_make _ := rfl
  exists_make token same := by cases token <;> simp_all [Token.kind]
  read_other token other := by cases token <;> simp_all [Token.kind, Addition.identifier?]

lemma variable_isClass : IsClass .variable Assignment.name? Token.variable where
  kind_make _ := rfl
  read_make _ := rfl
  exists_make token same := by cases token <;> simp_all [Token.kind]
  read_other token other := by cases token <;> simp_all [Token.kind, Assignment.name?]

lemma pseudoClass_isClass : IsClass .pseudoClass Addition.pseudoClass? Token.pseudoClass where
  kind_make _ := rfl
  read_make _ := rfl
  exists_make token same := by cases token <;> simp_all [Token.kind]
  read_other token other := by cases token <;> simp_all [Token.kind, Addition.pseudoClass?]

lemma comment_isClass :
    IsClass .comment comment? fun content => .comment content.1 content.2 where
  kind_make _ := rfl
  read_make _ := rfl
  exists_make token same := by cases token <;> simp_all [Token.kind]
  read_other token other := by cases token <;> simp_all [Token.kind, comment?]

lemma unknown_isClass :
    IsClass (.symbol .unknown) Statement.unknown? (Token.symbol .unknown) where
  kind_make _ := rfl
  read_make _ := rfl
  exists_make token same := by cases token <;> simp_all [Token.kind]
  read_other token other := by
    cases token with
    | symbol kind char => cases kind <;> simp_all [Token.kind, Statement.unknown?]
    | _ => rfl

namespace IsClass

variable {kind : TokenKind} {read : Token → Option α} {make : α → Token}

/-- `bucket` sorts by `Token.kind`, and an `IsClass` knows which constructor has that kind; so a
bucket holds tokens of its class and nothing else, and `expect` never fails on it. -/
theorem bucket_eq (cls : IsClass kind read make) (line : List Token) :
    bucket kind line = (line.filterMap read).map make := by
  induction line with
  | nil => rfl
  | cons token line ih =>
    by_cases same : token.kind = kind
    · obtain ⟨content, rfl⟩ := cls.exists_make token same
      simpa [bucket, cls.read_make, same] using ih
    · simpa [bucket, cls.read_other token same, same] using ih

lemma filterMap_bucket (cls : IsClass kind read make) (line : List Token) :
    (bucket kind line).filterMap read = line.filterMap read := by
  rw [cls.bucket_eq, List.filterMap_map]
  exact List.filterMap_eq_map_iff_forall_eq_some.2 (fun content _ => cls.read_make content) |>.trans
    (List.map_id _)

lemma read_of_mem_bucket (cls : IsClass kind read make) {token : Token}
    (mem : token ∈ bucket kind line) : ∃ content, read token = some content := by
  obtain ⟨content, rfl⟩ := cls.exists_make token (by simpa using (List.mem_filter.1 mem).2)
  exact ⟨content, cls.read_make content⟩

lemma expect_make (cls : IsClass kind read make) (content : α) :
    expect read (make content) = .ok content := by
  rw [expect, cls.read_make]

lemma mapM_expect (cls : IsClass kind read make) (line : List Token) :
    (bucket kind line).mapM (expect read) = .ok (line.filterMap read) := by
  rw [cls.bucket_eq]
  induction line.filterMap read with
  | nil => rfl
  | cons content contents ih =>
    rw [List.map_cons, List.mapM_cons, cls.expect_make, ih]
    rfl

end IsClass

/-! ## Parts of a line -/

lemma report_bind (first : Except StatementFault α) (next : α → Except StatementFault β) :
    report (first >>= next) = report first >>= fun value => report (next value) := by
  cases first with
  | error fault => rfl
  | ok value => rfl

/-- The only element of a list; none and several are faults. -/
def only (none many : StatementFault) : List α → Except StatementFault α
  | [] => .error none
  | [content] => .ok content
  | _ => .error many

lemma IsClass.single_map {kind : TokenKind} {read : Token → Option α} {make : α → Token}
    (cls : IsClass kind read make) (none many : StatementFault) (contents : List α) :
    single none many read (contents.map make) = report (only none many contents) := by
  rcases contents with _ | ⟨content, _ | ⟨other, contents⟩⟩
  · rfl
  · exact cls.expect_make content
  · rfl

lemma keyword_eq_only (line : List Token) :
    Statement.keyword line =
      only .noKeyword .manyKeywords (line.filterMap Statement.keyword?) := by
  rw [Statement.keyword]
  rcases line.filterMap Statement.keyword? with _ | ⟨name, _ | ⟨other, names⟩⟩ <;> rfl

lemma comments_eq (line : List Token) :
    comments line = .ok (line.filterMap Statement.comment?) := by
  rw [comments, comment_isClass.mapM_expect]
  refine congrArg Except.ok ?_
  induction line with
  | nil => rfl
  | cons token line ih =>
    cases token with
    | comment visibility text =>
      cases visibility with
      | shown => exact congrArg (Record.comment text :: ·) ih
      | hidden => exact ih
    | _ => exact ih

lemma refuseUnknown_eq (keyword : Text) (line : List Token) :
    refuseUnknown keyword line = report (Statement.refuseUnknown keyword line) := by
  rw [refuseUnknown, unknown_isClass.bucket_eq, Statement.refuseUnknown, ← List.head?_filterMap]
  cases line.filterMap Statement.unknown? with
  | nil => rfl
  | cons char chars => rfl

/-! ## Lines that add rules -/

lemma singleProperty_eq_only (line : List Token) :
    Addition.singleProperty line =
      only .noProperty .manyProperties (line.filterMap Addition.property?) := by
  rw [Addition.singleProperty]
  rcases line.filterMap Addition.property? with _ | ⟨name, _ | ⟨other, names⟩⟩ <;> rfl

lemma mapM_identifiers (names : List Text) (next : Text → Except StatementFault β) :
    ((names.map Token.identifier).mapM fun token => do
      report (next (← expect Addition.identifier? token))) = report (names.mapM next) := by
  induction names with
  | nil => rfl
  | cons name names ih =>
    rw [List.map_cons, List.mapM_cons, List.mapM_cons, ih, identifier_isClass.expect_make,
      report_bind]
    simp only [report_bind]
    rfl

lemma properties_eq (addition : Addition) :
    properties addition.base (addition.identifiers.map Token.identifier) =
      report addition.properties := by
  rw [properties, Addition.properties, mapM_identifiers]
  by_cases none : addition.identifiers = []
  · rw [if_pos none, if_pos (by rw [none]; rfl)]
  · rw [if_neg none, if_neg (by simpa using none), report_bind]
    rfl

/-- `Addition.read` reads the tokens of a class and then takes the only one; the interpreter takes
the only one of its bucket and then reads it. -/
lemma atMostOne_filterMap {fault : StatementFault} {read : Token → Option α}
    {tokens : List Token} (readable : ∀ token ∈ tokens, ∃ content, read token = some content) :
    Addition.atMostOne fault (tokens.filterMap read) =
      (Addition.atMostOne fault tokens).map (·.bind read) := by
  rcases tokens with _ | ⟨first, _ | ⟨second, tokens⟩⟩
  · rfl
  · obtain ⟨content, found⟩ := readable first (by simp)
    simp only [List.filterMap_cons, found]
    exact congrArg Except.ok found.symm
  · obtain ⟨content, found⟩ := readable first (by simp)
    obtain ⟨other, next⟩ := readable second (by simp)
    simp only [List.filterMap_cons, found, next]
    rfl

lemma atMostOne_perm {fault : StatementFault} {first second : List α} (perm : first.Perm second) :
    Addition.atMostOne fault first = Addition.atMostOne fault second := by
  have length := perm.length_eq
  rcases first with _ | ⟨a, _ | ⟨b, first⟩⟩
  · rw [perm.nil_eq]
  · rw [List.singleton_perm.1 perm]
  · rcases second with _ | ⟨c, _ | ⟨d, second⟩⟩
    · simp at length
    · simp at length
    · rfl

/-- The interpreter has two buckets for the two kinds of width, where `Addition.read` keeps the
order of the line.  Both refuse two widths, so that the order never shows (`atMostOne_perm`). -/
lemma widths_perm (line : List Token) :
    (bucket .mediaValue line ++ bucket .mediaVariableRef line).Perm
      (line.filter fun token => (MediaWidth.ofToken? token).isSome) := by
  induction line with
  | nil => exact .nil
  | cons token line ih =>
    cases token with
    | mediaValue width => exact ih.cons _
    | mediaVariableRef name => exact List.perm_middle.trans (ih.cons _)
    | _ => exact ih

lemma declaration_of_values {property : Text} {values : List Text}
    {optionalName pseudoClass media : Option Text} (given : values ≠ []) :
    declaration property values optionalName pseudoClass media =
      .ok ⟨property, values, optionalName, pseudoClass, media, given⟩ := by
  rw [declaration, Declaration.ofValues, dif_neg given]

lemma mapM_ok (build : α → Except Halt β) (result : α → β)
    (builds : ∀ content, build content = .ok (result content)) (contents : List α) :
    contents.mapM build = .ok (contents.map result) := by
  induction contents with
  | nil => rfl
  | cons content contents ih =>
    rw [List.mapM_cons, builds, ih]
    rfl

/-- `declaration` asserts that there are values, and `Addition.values_ne_nil` has proved it when the
addition was read. -/
theorem declarations_of_addition (store : Store) (addition : Addition) :
    (properties addition.base (addition.identifiers.map Token.identifier) >>= fun names =>
      names.mapM fun name =>
        declaration name addition.values addition.optionalName addition.pseudoClass
          (addition.media.bind (·.condition store))) =
      report (addition.declarations store) := by
  rw [properties_eq, Addition.declarations, report_bind]
  congr 1
  funext names
  exact mapM_ok _ _ (fun name => declaration_of_values addition.values_ne_nil) names

lemma pseudoClass_eq (line : List Token) :
    Addition.atMostOne .manyPseudoClasses (line.filterMap Addition.pseudoClass?) =
      (Addition.atMostOne .manyPseudoClasses (bucket .pseudoClass line)).map
        (·.bind Addition.pseudoClass?) := by
  rw [← pseudoClass_isClass.filterMap_bucket]
  exact atMostOne_filterMap fun _ => pseudoClass_isClass.read_of_mem_bucket

lemma width_eq (line : List Token) :
    Addition.atMostOne .manyMediaConditions (line.filterMap MediaWidth.ofToken?) =
      (Addition.atMostOne .manyMediaConditions
        (bucket .mediaValue line ++ bucket .mediaVariableRef line)).map
          (·.bind MediaWidth.ofToken?) := by
  rw [atMostOne_perm (widths_perm line), ← atMostOne_filterMap, List.filterMap_filter]
  · congr 2
    funext token
    cases MediaWidth.ofToken? token <;> rfl
  · exact fun token mem => Option.isSome_iff_exists.1 (List.mem_filter.1 mem).2

lemma declarations_eq (store : Store) (line : List Token) :
    declarations store line =
      report (Addition.read store line >>= fun addition => addition.declarations store) := by
  rw [declarations, property_isClass.bucket_eq, property_isClass.single_map,
    ← singleProperty_eq_only, Addition.read]
  cases Addition.singleProperty line with
  | error fault => rfl
  | ok base =>
    cases Gathered.empty.gather store none line with
    | error fault => rfl
    | ok gathered =>
      show (if gathered.values = [] then report (.error .noValue) else _) =
        report ((if h : gathered.values = [] then _ else _) >>= _)
      by_cases noValue : gathered.values = []
      · rw [if_pos noValue, dif_pos noValue]
        rfl
      rw [if_neg noValue, dif_neg noValue, pseudoClass_eq, width_eq]
      cases Addition.atMostOne .manyPseudoClasses (bucket .pseudoClass line) with
      | error fault => rfl
      | ok pseudoClass =>
        cases Addition.atMostOne .manyMediaConditions
            (bucket .mediaValue line ++ bucket .mediaVariableRef line) with
        | error fault => rfl
        | ok width =>
          rw [identifier_isClass.bucket_eq]
          exact declarations_of_addition store
            ⟨base, line.filterMap Addition.identifier?, gathered.values.reverse, gathered.name?,
              pseudoClass.bind Addition.pseudoClass?, width.bind MediaWidth.ofToken?,
              by simpa using noValue⟩

/-! ## Lines that define a variable -/

/-- `Slot.number?` splits off a number only if it has a digit, so that `Numeral.parse` is never
given a sign alone. -/
theorem skip_number_ne_nil {text number unit : Text}
    (split : Slot.number? text = some (number, unit)) : Text.skip '-' number ≠ [] := by
  obtain ⟨⟨numerator, divisor, rfl, ⟨sign, body, rfl, signed, unsigned⟩, -⟩, -⟩ :=
    Slot.parts_of_number? split
  have given : body ≠ [] := by
    obtain ⟨whole, point, decimals, rfl, -, given, -⟩ := unsigned
    simp [given]
  rw [List.append_assoc, Slot.skip_sign signed (unsigned.noSign divisor)]
  simp [given]

lemma slot_eq (text : Text) :
    slot text = report ((Slot.read text).mapError .integerTooLong) := by
  rw [slot, Slot.read]
  cases split : Slot.number? text with
  | none => rfl
  | some parts =>
    obtain ⟨number, unit⟩ := parts
    have given := skip_number_ne_nil split
    have same : isIntegral number = Slot.isInteger number := by
      simp [isIntegral, Slot.isInteger, given]
    dsimp only
    rw [same]
    by_cases integer : Slot.isInteger number
    · rw [if_pos integer, if_pos integer, Scanner.parse_of_digits integer given]
      cases Numeral.integer number with
      | error e => rfl
      | ok value => rfl
    · rw [if_neg integer, if_neg integer]
      rfl

lemma step_eq (store : Store) (slots : List Slot) (token : Token) (following : Option Token) :
    step store slots token following =
      report (Assignment.step store slots token following) := by
  unfold step
  split
  · rename_i text
    rw [slot_eq, Assignment.step, Assignment.literalSlot]
    cases Slot.read text with
    | error e => rfl
    | ok slot => rfl
  · rfl

lemma slotsFrom_eq (store : Store) (slots : List Slot) (tokens : List Token) :
    slotsFrom store slots tokens = report (Assignment.slotsFrom store slots tokens) := by
  induction tokens generalizing slots with
  | nil => rfl
  | cons token tokens ih =>
    rw [slotsFrom, Assignment.slotsFrom, step_eq, report_bind]
    simp only [ih]

lemma singleName_eq_only (names : List Text) :
    Assignment.singleName names = only .noVariable .manyVariables names := by
  rcases names with _ | ⟨name, _ | ⟨other, names⟩⟩ <;> rfl

lemma isEquals_eq (token : Token) :
    (!Assignment.isEquals token) = decide (token.kind ≠ .symbol .equals) := by
  cases token with
  | symbol kind char => cases kind <;> rfl
  | _ => rfl

lemma isVariable_eq (token : Token) :
    (Assignment.name? token).isNone = decide (token.kind ≠ .variable) := by
  cases token <;> rfl

/-- `split` keeps the tokens before the equals sign, where `Assignment.split` reads their names at
once; the class of `Token.variable` relates the two. -/
lemma split_eq (line : List Token) :
    split line = ((Assignment.split line).1.map Token.variable, (Assignment.split line).2) := by
  simp only [split, Assignment.split, isEquals_eq, isVariable_eq]
  cases line.dropWhile fun token => decide (token.kind ≠ .symbol .equals) with
  | cons equals value => rw [variable_isClass.bucket_eq]
  | nil =>
    cases shape : line.dropWhile fun token => decide (token.kind ≠ .variable) with
    | nil => rfl
    | cons head value =>
      have kind : head.kind = .variable := by
        have first := List.head?_dropWhile_not
          (fun token : Token => decide (token.kind ≠ .variable)) line
        rw [shape] at first
        simpa using first
      obtain ⟨name, rfl⟩ := variable_isClass.exists_make head kind
      rfl

lemma assignment_eq (store : Store) (line : List Token) :
    assignment store line = report (Assignment.read store line) := by
  rw [assignment, split_eq, variable_isClass.single_map, ← singleName_eq_only, Assignment.read]
  obtain ⟨names, value⟩ := Assignment.split line
  dsimp only
  rw [slotsFrom_eq, report_bind]
  congr 1
  funext name
  rw [report_bind]
  congr 1
  funext slots
  by_cases none : slots = []
  · rw [if_pos none, if_pos none]
  · rw [if_neg none, if_neg none]
    rfl

/-! ## Lines and programs -/

lemma effect_eq (store : Store) (line : List Token) :
    effect store line = report (Statement.effect store line) := by
  rw [effect, comments_eq, keyword_isClass.bucket_eq, keyword_isClass.single_map,
    ← keyword_eq_only, Statement.effect, report_bind]
  show (report (Statement.keyword line) >>= _) = _
  congr 1
  funext name
  by_cases add : name = "ADD".toList
  · rw [if_pos add, if_pos add, refuseUnknown_eq, declarations_eq, Statement.addition]
    simp only [report_bind, bind_assoc]
    rfl
  rw [if_neg add, if_neg add]
  by_cases var : name = "VAR".toList
  · rw [if_pos var, if_pos var, refuseUnknown_eq, assignment_eq, Statement.assignment]
    simp only [report_bind, bind_assoc]
    rfl
  rw [if_neg var, if_neg var]
  split
  · rfl
  · rfl

/-- `Interpreter.interpret` asserts a first token, which is why the line must not be empty;
`Line.group` never makes an empty one. -/
lemma interpret_eq (store : Store) (given : line ≠ []) :
    interpret store line = report (Statement.interpret store line) := by
  obtain ⟨first, others, rfl⟩ := List.exists_cons_of_ne_nil given
  cases first with
  | layer name edge => rfl
  | comment visibility text =>
    cases visibility with
    | hidden => rfl
    | shown =>
      cases others with
      | nil => rfl
      | cons second others => exact effect_eq store _
  | _ => exact effect_eq store _

lemma run_eq (store : Store) {lines : List (List Token)} (given : ∀ line ∈ lines, line ≠ []) :
    run store lines = (report (Program.run store lines).1, (Program.run store lines).2) := by
  induction lines generalizing store with
  | nil => rfl
  | cons line lines ih =>
    obtain ⟨first, others⟩ := List.forall_mem_cons.1 given
    rw [run, Program.run, interpret_eq store first]
    cases Statement.interpret store line with
    | error fault => rfl
    | ok effect =>
      have goesOn : report (.ok effect) = .ok effect := rfl
      rw [goesOn]
      dsimp only
      rw [ih (effect.store store) others]
      obtain ⟨result, final⟩ := Program.run (effect.store store) lines
      cases result with
      | error fault => rfl
      | ok records => rfl

theorem parse_eq (store : Store) (tokens : List Token) :
    parse store tokens =
      (report (Program.parse store tokens).1, (Program.parse store tokens).2) := by
  have given : ∀ line ∈ Line.group tokens, line ≠ [] := fun _ => Line.ne_nil_of_mem_groupFrom
  rw [parse, run_eq store given, Program.parse]
  obtain ⟨result, final⟩ := Program.run store (Line.group tokens)
  cases result with
  | error fault => rfl
  | ok records => rfl

end Interpreter

namespace Machine

/-- The machine does what `Compile.source` does (`Scanner.tokens_eq`, `Interpreter.parse_eq`).  The
only crash left is that of an integer with too many digits, which `Halt.ofError` names. -/
theorem compile_eq (options : OptionTexts) (store : Store) (text : Text) :
    compile options store text =
      ((Compile.source options store text).1.mapError .ofError,
        (Compile.source options store text).2) := by
  rw [compile, Compile.source]
  cases options.validate with
  | error fault => rfl
  | ok options =>
    dsimp only
    rw [checked, Compile.checked, Scanner.tokens_eq]
    cases Lexer.tokens text with
    | error error => rfl
    | ok tokens =>
      have read : (Except.ok tokens).mapError (fun error => Halt.ofError (.lexical error)) =
        .ok tokens := rfl
      rw [read]
      dsimp only
      rw [Interpreter.parse_eq]
      obtain ⟨result, final⟩ := Program.parse store tokens
      cases result with
      | error fault => rfl
      | ok records =>
        have parsed : Interpreter.report (.ok records) = .ok records := rfl
        rw [parsed]
        dsimp only
        cases Sheet.generate options.style records with
        | error fault => rfl
        | ok css => rfl

end Machine

end UtilityCss
