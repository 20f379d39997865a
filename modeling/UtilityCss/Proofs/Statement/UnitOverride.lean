import UtilityCss.Proofs.Statement.Substitution
import UtilityCss.Proofs.Store.Literal
import UtilityCss.Proofs.Token.MeasureRow
import UtilityCss.Proofs.Token.Surface

/-!
# References with a unit of their own

A variable that is defined by measures can be referred to with another unit, and copied with it.  A
reference gives all the numbers in their order, each with the unit of the reference in the place of
its own (`Program.parse_unitOverride`), with one exception.  A comma behind a measure makes a text
of the measure, its unit and the comma, and the unit of a reference then comes behind that text.  So
the units are replaced exactly in rows without commas.

Copies are followed along chains: a copy with a unit stands for the slots with that unit
(`Copied.slots?`), and the last unit that is given counts.  Both kinds of statement can be written
with the unit directly behind the brace (`Lexer.tokens_addition`, `Lexer.tokens_copy`).
-/

namespace UtilityCss

namespace Measure

variable (m : Measure)

/-- The number, written back: an integer by its value, any other number as it is. -/
def number : Text :=
  if m.fraction = [] then Text.ofInt m.value else m.sign ++ (m.digits ++ m.fraction)

/-- The unit that the measure is written with. -/
def ownUnit : Text := m.unit ++ m.percentSign

/-- What the measure becomes where a variable is referred to, perhaps with a unit. -/
def rendered (override : Option Text) : Text :=
  if m.commas = [] then m.number ++ override.getD m.ownUnit
  else m.number ++ (m.ownUnit ++ (m.commas ++ override.getD []))

/-- The measure with another unit, and its commas behind the unit. -/
def converted (unit : Text) : Text := m.number ++ (unit ++ m.commas)

/-! ## Slots -/

def scalar : Scalar :=
  if m.fraction = [] then .integer m.value else .text (m.sign ++ (m.digits ++ m.fraction))

lemma toText_scalar : m.scalar.toText = m.number := by
  unfold scalar number
  split <;> rfl

/-- The slot of the measure without its commas. -/
def bareSlot : Slot := ⟨m.scalar, if m.ownUnit = [] then none else some m.ownUnit⟩

/-- The slot with commas set behind it. -/
def closed (slot : Slot) (count : Nat) : Slot :=
  if count = 0 then slot else ⟨.text (slot.render none ++ List.replicate count ','), none⟩

def slot : Slot := closed m.bareSlot (m.separator.count ',')

lemma render_bareSlot (override : Option Text) :
    m.bareSlot.render override = m.number ++ override.getD m.ownUnit := by
  rw [Slot.render, bareSlot, toText_scalar]
  by_cases bare : m.ownUnit = [] <;> simp [bare]

lemma render_slot (override : Option Text) : m.slot.render override = m.rendered override := by
  unfold slot closed rendered commas
  by_cases none : m.separator.count ',' = 0
  · simp [none, render_bareSlot]
  · rw [if_neg none, m.render_bareSlot]
    simp [none, Slot.render, Scalar.toText]

end Measure

namespace Assignment

variable {store : Store} {slots more : List Slot} {slot : Slot} {rest : List Token}

/-- A bare integer was converted when it was read, which `m.Legible` says can be done; any other
number is a text that `Slot.read` splits, and only then may an integer turn out too long.  So
`m.Readable` is asked here and not of the lexer. -/
lemma literalSlot_measure {m : Measure} (legible : m.Legible) :
    literalSlot m.literal = .ok slot ↔
      m.Readable ∧ slot = ⟨m.scalar, if m.unit = [] then none else some m.unit⟩ := by
  unfold Measure.literal
  by_cases integral : m.fraction = [] ∧ m.unit = []
  · have readable := legible integral.2
    simp [literalSlot, integral, readable, Measure.scalar, eq_comm]
  · rw [if_neg integral]
    rw [literalSlot_text, Slot.read, Measure.body, Slot.number?_written m.parts]
    by_cases whole : m.fraction = []
    · have integer : Slot.isInteger (m.sign ++ (m.digits ++ m.fraction)) = true :=
        (Slot.isInteger_written m.parts).2 whole
      have readable : m.Readable ↔ m.digits.length ≤ Numeral.digitLimit := forall_prop_of_true whole
      simp only [if_pos integer]
      rw [whole, List.append_nil, m.integer_eq, readable, Measure.scalar, if_pos whole]
      by_cases short : m.digits.length ≤ Numeral.digitLimit
      · simp only [short, if_true, Except.map, Except.ok.injEq, true_and]
        exact eq_comm
      · simp only [short, if_false, Except.map, false_and]
        simp
    · have decimal : ¬ Slot.isInteger (m.sign ++ (m.digits ++ m.fraction)) = true :=
        mt (Slot.isInteger_written m.parts).1 whole
      have readable : m.Readable := fun none => absurd none whole
      simp only [if_neg decimal, Except.ok.injEq, readable, true_and, Measure.scalar, if_neg whole]
      exact eq_comm

/-- `Assignment.step` makes a text of the last slot for a comma, its unit included, so that the unit
can no longer be overridden.  Further commas are written behind that text, and `Measure.closed` sets
all of them at once. -/
lemma slotsFrom_commas (count : Nat) (slot : Slot) (slots : List Slot) (rest : List Token) :
    slotsFrom store (slot :: slots) (List.replicate count (.symbol .comma []) ++ rest) =
      slotsFrom store (Measure.closed slot count :: slots) rest := by
  induction count generalizing slot with
  | zero => rfl
  | succ count ih =>
    have next (following : Option Token) :
        step store (slot :: slots) (.symbol .comma []) following =
          .ok (⟨.text (slot.render none ++ [',']), none⟩ :: slots) := rfl
    have all : Measure.closed ⟨.text (slot.render none ++ [',']), none⟩ count =
        Measure.closed slot (count + 1) := by
      cases count with
      | zero => rfl
      | succ count => simp [Measure.closed, render_text, List.replicate_succ]
    rw [List.replicate_succ, List.cons_append, slotsFrom, next, ← all, ← ih]
    rfl

/-- The percent sign is a token and the letters of a unit are not, so that `unitOf` looks ahead for
the one while `literalSlot_measure` has found the other; `m.single` says that a measure has not
both. -/
lemma slotsFrom_measureSuffix (m : Measure) (slots : List Slot)
    (noUnit : ∀ unit, rest.head? ≠ some (.valueType unit)) :
    slotsFrom store (⟨m.scalar, unitOf (if m.unit = [] then none else some m.unit)
        (m.suffix ++ rest).head?⟩ :: slots) (m.suffix ++ rest) =
      slotsFrom store (m.slot :: slots) rest := by
  cases percent : m.percent with
  | true =>
    have suffix : m.suffix = .valueType "%" ::
        List.replicate (m.separator.count ',') (.symbol .comma []) := by
      simp [Measure.suffix, percent]
    have own : m.bareSlot = ⟨m.scalar, some "%"⟩ := by
      simp [Measure.bareSlot, Measure.ownUnit, Measure.percentSign, percent, m.single percent]
    rw [suffix, Measure.slot, own, ← slotsFrom_commas]
    rfl
  | false =>
    have suffix : m.suffix = List.replicate (m.separator.count ',') (.symbol .comma []) := by
      simp [Measure.suffix, percent]
    have own : m.bareSlot = ⟨m.scalar, if m.unit = [] then none else some m.unit⟩ := by
      simp [Measure.bareSlot, Measure.ownUnit, Measure.percentSign, percent]
    have following (unit : Option Text) : unitOf unit (m.suffix ++ rest).head? = unit := by
      unfold unitOf
      split
      · rename_i other next
        rw [suffix] at next
        generalize m.separator.count ',' = count at next
        cases count with
        | zero => exact absurd next (noUnit other)
        | succ count => simp [List.replicate_succ] at next
      · rfl
    rw [following, ← own, suffix, slotsFrom_commas, Measure.slot]

/-- `literalSlot_measure` for the number and `slotsFrom_measureSuffix` for what stands behind it.
The next measure begins with a value, which is what `noUnit` asks for. -/
lemma slotsFrom_measure {m : Measure} (legible : m.Legible)
    (noUnit : ∀ unit, rest.head? ≠ some (.valueType unit)) :
    slotsFrom store slots (m.tokens ++ rest) = .ok more ↔
      m.Readable ∧ slotsFrom store (m.slot :: slots) rest = .ok more := by
  rw [Measure.tokens, List.cons_append, slotsFrom, bind_eq_ok_iff]
  simp only [step, map_eq_ok_iff, literalSlot_measure legible]
  constructor
  · rintro ⟨_, ⟨_, ⟨readable, rfl⟩, rfl⟩, ran⟩
    exact ⟨readable, by rwa [slotsFrom_measureSuffix m slots noUnit] at ran⟩
  · rintro ⟨readable, ran⟩
    exact ⟨_, ⟨_, ⟨readable, rfl⟩, rfl⟩, by rwa [slotsFrom_measureSuffix m slots noUnit]⟩

lemma slotsFrom_measures {row : List Measure} (legible : ∀ m ∈ row, m.Legible) :
    slotsFrom store slots (row.flatMap Measure.tokens) = .ok more ↔
      (∀ m ∈ row, m.Readable) ∧ more = (row.map Measure.slot).reverse ++ slots := by
  induction row generalizing slots with
  | nil => simp [slotsFrom, eq_comm]
  | cons m row ih =>
    obtain ⟨here, later⟩ := List.forall_mem_cons.1 legible
    have noUnit (unit : Text) : (row.flatMap Measure.tokens).head? ≠ some (.valueType unit) := by
      cases row <;> simp [Measure.tokens]
    rw [List.flatMap_cons, slotsFrom_measure here noUnit, ih later, List.forall_mem_cons]
    simp [and_assoc]

end Assignment

/-! ## References as they are written -/

namespace Lexer

variable {property name target : Text} {given : Option Text}

lemma surface_variableRef (name : Text) (given : Option Text) :
    (Token.variableRef name given).surface = Text.braced name ++ given.getD [] := by
  simp [Token.surface, Text.braced]

lemma isWord_of_mem_properties (known : property ∈ Vocabulary.properties) :
    IsWord property ∧ property ∉ Vocabulary.keywords := by
  have all : Vocabulary.properties.all (fun property => property.all isWordPart &&
      property.head?.any beginsWord && !beginsNumber property &&
      !Vocabulary.keywords.contains property) = true := by
    decide +kernel
  have shape := List.all_eq_true.1 all property known
  simp only [Bool.and_eq_true, Bool.not_eq_true', List.contains_eq_mem, decide_eq_false_iff_not]
    at shape
  obtain ⟨⟨⟨parts, begins⟩, noNumber⟩, free⟩ := shape
  exact ⟨⟨List.all_eq_true.1 parts, begins, noNumber⟩, free⟩

/-- Directly behind a keyword, `Token.classify` takes a property for one even if it is a value or a
suffix as well. -/
lemma classify_property (known : property ∈ Vocabulary.properties) :
    Token.classify [.keyword "ADD"] property = .property property := by
  rw [Token.classify, if_neg (isWord_of_mem_properties known).2]
  simp [Token.statementProperty?, Token.isIdentifier, Token.followsKeyword, Token.isKeyword,
    Token.awaitsProperty, known]

/-- One construct after the other, by `tokensFrom_bareWord` and `tokensFrom_operand`; that
`property` is a word and no keyword is known from the vocabulary (`isWord_of_mem_properties`). -/
theorem tokens_addition (known : property ∈ Vocabulary.properties) (named : IsName name)
    (units : ∀ unit ∈ given, unit ∈ Vocabulary.units) :
    tokens ("ADD " ++ property ++ " " ++ Text.braced name ++ given.getD []) =
      .ok [.keyword "ADD", .property property, .variableRef name given] := by
  have keyword : IsWord "ADD" := ⟨by simp; decide, by decide, by decide⟩
  have start : Token.classify [] "ADD" = .keyword "ADD" := rfl
  obtain ⟨shape, free⟩ := isWord_of_mem_properties known
  have blank (below : Text) : Ended (' ' :: below) := by
    rintro c ⟨⟩
    exact ⟨by decide, by decide, by decide⟩
  have whole : "ADD " ++ property ++ " " ++ Text.braced name ++ given.getD [] =
      "ADD".toList ++
        ' ' :: (property ++ ' ' :: ((Token.variableRef name given).surface ++ [])) := by
    simp [surface_variableRef]
  apply tokens_of_tokensFrom
  rw [whole, tokensFrom_bareWord keyword (blank _) (by decide), start, tokensFrom_blank,
    tokensFrom_bareWord shape (blank _) (noMarker_of_free free), classify_property known,
    tokensFrom_blank, tokensFrom_operand (.reference named units) (by simp [Apart]), tokensFrom]
  rfl

/-- As for `tokens_addition`, but the value of a definition is read together with its equals sign
(`tokensFrom_assignment`). -/
theorem tokens_copy (shape : IsWord target) (free : target ∉ Vocabulary.keywords)
    (named : IsName name) (units : ∀ unit ∈ given, unit ∈ Vocabulary.units) :
    tokens ("VAR " ++ target ++ " = " ++ Text.braced name ++ given.getD []) =
      .ok [.keyword "VAR", .variable target, .equals, .variableRef name given] := by
  have gap : ∀ c ∈ [' '], isGap c = true := by simp; decide
  have whole : "VAR " ++ target ++ " = " ++ Text.braced name ++ given.getD [] =
      "VAR".toList ++ ([' '] ++ (target ++ ([' '] ++
        '=' :: ' ' :: ((Token.variableRef name given).surface ++ [])))) := by
    simp [surface_variableRef]
  apply tokens_of_tokensFrom
  rw [whole, tokensFrom_opening shape free gap gap (List.cons_ne_nil _ _),
    tokensFrom_assignment (by decide) (.operand (.reference named units)) (by simp [Apart]),
    tokensFrom]
  rfl

end Lexer

/-! ## Chains of copies -/

/-- A variable that stands for the slots of another: that variable itself, a copy of such a
variable, with a unit or without, or one that has been left alone.  The unit is the last that was
given. -/
inductive Copied (origin : Store) (name : Text) : Store → Text → Option Text → Prop
  | self : Copied origin name origin name none
  | copy {store after : Store} {source target : Text} {unit given : Option Text}
      (before : Copied origin name store source unit)
      (defined : Program.parse store
        [.keyword "VAR", .variable target, .equals, .variableRef source given] = (.ok [], after)) :
      Copied origin name after target (given <|> unit)
  | keep {store after : Store} {target : Text} {unit : Option Text}
      (before : Copied origin name store target unit)
      (alone : after.slots? target = store.slots? target) : Copied origin name after target unit

variable {origin store : Store} {name target property : Text} {unit : Option Text}
  {slots : List Slot}

/-- A definition without slots is refused, and a variable that was bound to none gives none; apart
from that the copy is the list of slots with `Assignment.copy given` on each. -/
lemma Program.parse_copy {source : Text} {given : Option Text} {records : List Record}
    {after : Store} (bound : store.slots? source = some slots) :
    parse store [.keyword "VAR", .variable target, .equals, .variableRef source given] =
        (.ok records, after) ↔
      slots ≠ [] ∧ records = [] ∧
        after = store.bind target (slots.map (Assignment.copy given)) := by
  have only : OnlyValues [.variableRef source given] := onlyValues (by simp [Token.isValuePart])
  have gathered : Assignment.slotsFrom store [] [.variableRef source given] =
      .ok (slots.map (Assignment.copy given)).reverse := by
    simp [Assignment.slotsFrom, Assignment.step, bound, bind, Except.bind]
  rw [parse_definition only.keywords only.comments only.unknowns only.inline, gathered]
  constructor
  · rintro ⟨made, same, filled, rfl, rfl⟩
    obtain rfl := Except.ok.inj same
    exact ⟨by simpa using filled, rfl, by simp⟩
  · rintro ⟨filled, rfl, rfl⟩
    exact ⟨_, rfl, by simpa using filled, rfl, by simp⟩

lemma Assignment.copy_copy (given unit : Option Text) (slot : Slot) :
    copy given (copy unit slot) = copy (given <|> unit) slot := by
  cases given <;> rfl

theorem Copied.slots? (copied : Copied origin name store target unit)
    (bound : origin.slots? name = some slots) :
    store.slots? target = some (slots.map (Assignment.copy unit)) := by
  induction copied with
  | self =>
    have same : slots.map (Assignment.copy none) = slots := List.map_id slots
    rw [bound, same]
  | copy before defined ih =>
    obtain ⟨-, -, rfl⟩ := (Program.parse_copy ih).1 defined
    simp [Store.slots?_bind, Assignment.copy_copy]
  | keep before alone ih => rw [alone, ih]

/-! ## References -/

/-- `previous` and `following` are arbitrary: a reference looks at neither, so that it may stand
anywhere in an addition. -/
lemma Gathered.step_reference (bound : store.slots? name = some slots) (gathered : Gathered)
    (previous following : Option Token) (given : Option Text) :
    gathered.step store previous (.variableRef name given) following =
      .ok (gathered.addReference name (Slot.renderAll slots given)) := by
  simp only [step, bound]

/-- `Gathered.step_reference` in the shortest addition there is, where the one value is the whole
value of the rule. -/
lemma Program.parse_reference (bound : store.slots? name = some slots)
    (known : property ∈ Vocabulary.properties) (given : Option Text) :
    ∃ rule, parse store [.keyword "ADD", .property property, .variableRef name given] =
        (.ok [.rule rule], store) ∧
      rule.property = property ∧ rule.values = [Slot.renderAll slots given] := by
  let reference : Gathered := ⟨[Slot.renderAll slots given], [name], false⟩
  have refers : Gathered.empty.gather store (some (.property property))
      [.variableRef name given] = .ok reference := by
    rw [Gathered.gather, Gathered.step_reference bound]
    rfl
  have only : OnlyValues [.variableRef name given] := onlyValues (by simp [Token.isValuePart])
  exact ⟨_, (parse_addition only known).2 ⟨reference, refers, List.cons_ne_nil _ _, rfl, rfl⟩, rfl,
    rfl⟩

/-! ## Commas -/

lemma Text.join_blank_injective {first second : List Text} (given : first ≠ [])
    (given' : second ≠ []) (solid : ∀ part ∈ first, ' ' ∉ part)
    (solid' : ∀ part ∈ second, ' ' ∉ part) (same : Text.join " " first = Text.join " " second) :
    first = second := by
  rw [← List.splitOn_intercalate ' ' solid given, ← List.splitOn_intercalate ' ' solid' given']
  exact congrArg (List.splitOn ' ') same

namespace Measure

variable (m : Measure)

lemma blank_not_mem_number : ' ' ∉ m.number := by
  have digital {digits : Text} (all : ∀ c ∈ digits, c.isDigit = true) : ' ' ∉ digits :=
    fun mem => absurd (all ' ' mem) (by decide)
  have natural (n : Nat) : ' ' ∉ Text.ofNat n := digital fun c => Numeral.isDigit_of_mem_ofNat
  unfold number
  split
  · cases m.value with
    | ofNat n => exact natural n
    | negSucc n => exact List.not_mem_cons_of_ne_of_not_mem (by decide) (natural (n + 1))
  · have sign : ' ' ∉ m.sign := by rcases m.parts.signed with bare | minus <;> simp [*]
    have fraction : ' ' ∉ m.fraction := by
      rcases m.parts.fractional with none | ⟨mark, digits, shape, rfl | rfl, -, all⟩
      · simp [none]
      · simp [shape, digital all]
      · simp [shape, digital all]
    simp [sign, fraction, digital m.parts.digital]

lemma blank_not_mem_ownUnit : ' ' ∉ m.ownUnit := by
  have unit : ' ' ∉ m.unit := fun mem => absurd (m.parts.alphabetic ' ' mem) (by decide)
  unfold ownUnit percentSign
  split <;> simp [unit]

/-- With a comma the one text ends with the unit and the other with the comma, and `noComma` tells
them apart. -/
lemma rendered_eq_converted_iff {unit : Text} (given : unit ≠ []) (noComma : ',' ∉ unit) :
    m.rendered (some unit) = m.converted unit ↔ m.commas = [] := by
  unfold rendered converted
  by_cases none : m.commas = []
  · simp [none]
  · refine iff_of_false (fun same => ?_) none
    -- the one text ends with the unit, the other with a comma
    rw [if_neg none, List.append_cancel_left_eq, Option.getD_some] at same
    obtain ⟨letters, last, rfl⟩ := (List.eq_nil_or_concat unit).resolve_left given
    obtain ⟨before, comma⟩ : ∃ before, m.commas = before ++ [','] := by
      unfold commas at none ⊢
      cases count : m.separator.count ',' with
      | zero => simp [count] at none
      | succ count => exact ⟨_, List.replicate_succ'⟩
    have turned : (m.ownUnit ++ m.commas ++ letters) ++ [last] =
        (letters ++ [last] ++ before) ++ [','] := by
      simpa [comma] using same
    have ends : last = ',' := by simpa using (List.append_inj' turned rfl).2
    exact noComma (by simp [ends])

/-- Measures have no blanks in them, so that `Text.join_blank_injective` leads from the whole to
each of them, where `rendered_eq_converted_iff` applies. -/
lemma join_rendered_eq_iff {row : List Measure} {unit : Text} (known : unit ∈ Vocabulary.units)
    (filled : row ≠ []) :
    Text.join " " (row.map (·.rendered (some unit))) =
        Text.join " " (row.map (·.converted unit)) ↔
      ∀ m ∈ row, m.commas = [] := by
  obtain ⟨given, foreign⟩ : unit ≠ [] ∧ ∀ c ∈ unit, c ≠ ',' ∧ c ≠ ' ' := by
    rcases Lexer.units_alphabetic known with rfl | ⟨given, letters⟩
    · simp
    · exact ⟨given, fun c mem => ⟨Lexer.ne_of_class (letters c mem) (by decide),
        Lexer.ne_of_class (letters c mem) (by decide)⟩⟩
  have noComma : ',' ∉ unit := fun mem => (foreign _ mem).1 rfl
  have noBlank : ' ' ∉ unit := fun mem => (foreign _ mem).2 rfl
  have commas (m : Measure) : ' ' ∉ m.commas := by simp [commas]
  have solid (m : Measure) : ' ' ∉ m.rendered (some unit) := by
    unfold rendered
    split <;> simp [blank_not_mem_number, blank_not_mem_ownUnit, noBlank, commas]
  have solid' (m : Measure) : ' ' ∉ m.converted unit := by
    simp [converted, blank_not_mem_number, noBlank, commas]
  constructor
  · intro same m mem
    have all := Text.join_blank_injective (by simpa using filled) (by simpa using filled)
      (by simpa using fun m _ => solid m) (by simpa using fun m _ => solid' m) same
    exact (m.rendered_eq_converted_iff given noComma).1 (List.map_inj_left.1 all m mem)
  · intro none
    exact congrArg _ (List.map_congr_left fun m mem =>
      (m.rendered_eq_converted_iff given noComma).2 (none m mem))

end Measure

namespace Program

/-- `Lexer.tokens_measureDefinition` settles the reading and `Assignment.slotsFrom_measures` the
slots; each of them may fail for an integer that is too long, and together they fail unless all
measures are readable. -/
lemma parse_measureDefinition {d : MeasureDefinition} {stream : List Token}
    {records : List Record} {after : Store} (store : Store) :
    Lexer.tokens d.source = .ok stream ∧ parse store stream = (.ok records, after) ↔
      (∀ m ∈ d.row, m.Readable) ∧
        stream = .keyword "VAR" :: .variable d.name :: .equals :: d.row.flatMap Measure.tokens ∧
        records = [] ∧ after = store.bind d.name (d.row.map Measure.slot) := by
  have only : OnlyValues (d.row.flatMap Measure.tokens) := by
    refine onlyValues fun token mem => ?_
    obtain ⟨m, -, part⟩ := List.mem_flatMap.1 mem
    rcases List.mem_cons.1 part with rfl | part
    · rfl
    · rcases List.mem_append.1 part with sign | comma
      · split at sign
        · rw [List.mem_singleton.1 sign]
          rfl
        · simp at sign
      · rw [List.eq_of_mem_replicate comma]
        rfl
  have parsed : parse store
      (.keyword "VAR" :: .variable d.name :: .equals :: d.row.flatMap Measure.tokens) =
        (.ok records, after) ↔ _ :=
    parse_definition only.keywords only.comments only.unknowns only.inline
  constructor
  · rintro ⟨read, ran⟩
    obtain ⟨legible, rfl⟩ := (Lexer.tokens_measureDefinition d).1 read
    obtain ⟨slots, gathered, -, rfl, rfl⟩ := parsed.1 ran
    obtain ⟨readable, rfl⟩ := (Assignment.slotsFrom_measures legible).1 gathered
    exact ⟨readable, rfl, rfl, by simp⟩
  · rintro ⟨readable, rfl, rfl, rfl⟩
    have legible : ∀ m ∈ d.row, m.Legible := fun m mem _ => readable m mem
    refine ⟨(Lexer.tokens_measureDefinition d).2 ⟨legible, rfl⟩, parsed.2 ⟨_,
      (Assignment.slotsFrom_measures legible).2 ⟨readable, rfl⟩, ?_, rfl, by simp⟩⟩
    simp [MeasureDefinition.row]

/-- A definition by measures is accepted unless an integer is too long (`Measure.Readable`).  A
reference to its name, or to a copy of it (`Copied`), then adds the measures in their order as one
value, with the last unit that was given: behind the number, or behind number, unit and comma where
a comma follows (`Measure.rendered`).  The reference can be written in an addition, and in a
definition, which makes another copy.  The units are replaced exactly if there are no commas. -/
theorem parse_unitOverride (d : MeasureDefinition) (store : Store) :
    ((∃ stream after, Lexer.tokens d.source = .ok stream ∧ parse store stream = (.ok [], after)) ↔
      ∀ m ∈ d.row, m.Readable) ∧
    (∀ stream records after, Lexer.tokens d.source = .ok stream →
      parse store stream = (.ok records, after) →
      ∀ later target unit, Copied after d.name later target unit → ∀ given,
        (∃ text, text = Text.join " " (d.row.map (·.rendered (given <|> unit))) ∧
          (∀ gathered previous following,
            Gathered.step later gathered previous (.variableRef target given) following =
              .ok (gathered.addReference target text)) ∧
          ∀ property ∈ Vocabulary.properties, ∃ rule,
            parse later [.keyword "ADD", .property property, .variableRef target given] =
              (.ok [.rule rule], later) ∧
            rule.property = property ∧ rule.values = [text]) ∧
        (Lexer.IsName target → (∀ unit ∈ given, unit ∈ Vocabulary.units) →
          (∀ property ∈ Vocabulary.properties,
            Lexer.tokens ("ADD " ++ property ++ " " ++ Text.braced target ++ given.getD []) =
              .ok [.keyword "ADD", .property property, .variableRef target given]) ∧
          ∀ name, Lexer.IsWord name → name ∉ Vocabulary.keywords → ∃ copying final,
            Lexer.tokens ("VAR " ++ name ++ " = " ++ Text.braced target ++ given.getD []) =
                .ok copying ∧
              parse later copying = (.ok [], final) ∧
              Copied after d.name final name (given <|> unit))) ∧
    ∀ unit ∈ Vocabulary.units,
      (Text.join " " (d.row.map (·.rendered (some unit))) =
          Text.join " " (d.row.map (·.converted unit)) ↔
        ∀ m ∈ d.row, m.commas = []) := by
  refine ⟨⟨?_, fun readable => ?_⟩, ?_, fun unit known =>
    Measure.join_rendered_eq_iff known (List.cons_ne_nil _ _)⟩
  · rintro ⟨stream, after, accepted⟩
    exact ((parse_measureDefinition store).1 accepted).1
  · exact ⟨_, _, (parse_measureDefinition store).2 ⟨readable, rfl, rfl, rfl⟩⟩
  · intro stream records after read ran later target unit copied given
    obtain ⟨-, -, -, rfl⟩ := (parse_measureDefinition store).1 ⟨read, ran⟩
    have own : (store.bind d.name (d.row.map Measure.slot)).slots? d.name =
        some (d.row.map Measure.slot) := by simp [Store.slots?_bind]
    have bound := copied.slots? own
    refine ⟨⟨_, ?_, fun gathered previous following =>
      Gathered.step_reference bound gathered previous following given,
      fun property known => parse_reference bound known given⟩, fun named units =>
      ⟨fun property known => Lexer.tokens_addition known named units, fun name shape free => ?_⟩⟩
    · simp [Slot.renderAll, Assignment.render_copy, Measure.render_slot, Function.comp_def]
    · have defined : parse later
          [.keyword "VAR", .variable name, .equals, .variableRef target given] = (.ok [], _) :=
        (parse_copy bound).2 ⟨by simp [MeasureDefinition.row], rfl, rfl⟩
      exact ⟨_, _, Lexer.tokens_copy shape free named units, defined, .copy copied defined⟩

/-! ## A row that is copied with a unit, and a row with a comma -/

/-- A decimal with a unit, an integer with superfluous zeros and a percentage. -/
def mixedRow : MeasureDefinition where
  indent := []
  name := "gap"
  gaps := (['\t'], [], [' '])
  first := ⟨[], ['1'], ['.', '5', '0'], "px", false, [' '], ⟨.inl rfl, List.all_eq_true.1 rfl,
    .inr ⟨'.', ['5', '0'], rfl, .inl rfl, by simp, List.all_eq_true.1 rfl⟩, List.all_eq_true.1 rfl,
    by simp⟩, by simp, by simp; decide⟩
  later := [
    ⟨[], ['0', '0', '7'], [], [], false, [' ', ' '],
      ⟨.inl rfl, List.all_eq_true.1 rfl, .inl rfl, by simp, by simp⟩, by simp, by simp; decide⟩,
    ⟨['-'], ['2'], [], [], true, [],
      ⟨.inr rfl, List.all_eq_true.1 rfl, .inl rfl, by simp, by simp⟩, by simp, by simp⟩]
  indented := by simp
  named := ⟨List.all_eq_true.1 rfl, by decide, by decide⟩
  free := by decide
  parted := by simp
  wide := List.all_eq_true.1 rfl
  separated := by simp

theorem parse_unitOverride_mixedRow :
    ∃ stream after copying later adding rule,
      Lexer.tokens "VAR\tgap= 1.50px 007  -2%" = .ok stream ∧
      parse .empty stream = (.ok [], after) ∧
      Lexer.tokens ("VAR wide = " ++ Text.braced "gap" ++ "em") = .ok copying ∧
      parse after copying = (.ok [], later) ∧
      Lexer.tokens ("ADD margin " ++ Text.braced "wide") = .ok adding ∧
      parse later adding = (.ok [.rule rule], later) ∧
      rule.values = ["1.50em 7em -2em".toList] := by
  have readable : ∀ m ∈ mixedRow.row, m.Readable := by
    simp [mixedRow, MeasureDefinition.row, Measure.Readable, Numeral.digitLimit]
  obtain ⟨read, ran⟩ := (parse_measureDefinition .empty).2 ⟨readable, rfl, rfl, rfl⟩
  have known : "margin".toList ∈ Vocabulary.properties := by decide
  have gap : Lexer.IsName "gap" := ⟨by decide, by decide, rfl⟩
  have wide : Lexer.IsName "wide" := ⟨by decide, by decide, rfl⟩
  have override := (parse_unitOverride mixedRow .empty).2.1 _ _ _ read ran
  obtain ⟨copying, later, reads, copies, copied⟩ := ((override _ _ _ .self (some "em")).2 gap
    (by decide)).2 "wide" ⟨List.all_eq_true.1 rfl, by decide, by decide⟩ (by decide)
  obtain ⟨⟨_, rfl, -, rendered⟩, written⟩ := override _ _ _ copied none
  obtain ⟨rule, parsed, -, values⟩ := rendered "margin" known
  have adding := (written wide (by simp)).1 "margin" known
  exact ⟨_, _, _, _, _, rule, read, ran, reads, copies, adding, parsed, values⟩

def commaRow : MeasureDefinition where
  indent := []
  name := "x"
  gaps := ([' '], [' '], [' '])
  first := ⟨[], ['1'], [], "px", false, [',', ' '],
    ⟨.inl rfl, List.all_eq_true.1 rfl, .inl rfl, List.all_eq_true.1 rfl, by simp⟩, by simp,
    by simp; decide⟩
  later := [⟨[], ['2'], [], "px", false, [],
    ⟨.inl rfl, List.all_eq_true.1 rfl, .inl rfl, List.all_eq_true.1 rfl, by simp⟩, by simp,
    by simp⟩]
  indented := by simp
  named := ⟨List.all_eq_true.1 rfl, by decide, by decide⟩
  free := by decide
  parted := by simp
  wide := List.all_eq_true.1 rfl
  separated := by simp

/-- The unit of the reference comes behind the comma, and the unit before the comma stays. -/
theorem parse_reference_behindComma :
    ∃ stream bound adding rule,
      Lexer.tokens "VAR x = 1px, 2px" = .ok stream ∧ parse .empty stream = (.ok [], bound) ∧
      Lexer.tokens ("ADD animation " ++ Text.braced "x" ++ "em") = .ok adding ∧
      parse bound adding = (.ok [.rule rule], bound) ∧
      rule.values = ["1px,em 2em".toList] ∧ rule.values ≠ ["1em, 2em".toList] := by
  have readable : ∀ m ∈ commaRow.row, m.Readable := by
    simp [commaRow, MeasureDefinition.row, Measure.Readable, Numeral.digitLimit]
  obtain ⟨read, ran⟩ := (parse_measureDefinition .empty).2 ⟨readable, rfl, rfl, rfl⟩
  have known : "animation".toList ∈ Vocabulary.properties := by decide
  have bound : (Store.empty.bind commaRow.name (commaRow.row.map Measure.slot)).slots? "x" =
      some (commaRow.row.map Measure.slot) := rfl
  obtain ⟨rule, parsed, -, values⟩ := parse_reference bound known (some "em")
  have text : rule.values = ["1px,em 2em".toList] := values
  have named : Lexer.IsName "x" := ⟨by decide, by decide, rfl⟩
  have unit : ∀ unit ∈ some "em".toList, unit ∈ Vocabulary.units := by decide
  have adding := Lexer.tokens_addition known named unit
  exact ⟨_, _, _, rule, read, ran, adding, parsed, text, by rw [text]; decide⟩

end Program

end UtilityCss
