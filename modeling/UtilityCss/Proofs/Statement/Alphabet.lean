import UtilityCss.Proofs.Statement.Atomicity
import UtilityCss.Proofs.Store.Literal
import UtilityCss.Proofs.Text.Brackets

/-!
# The characters of declarations

The text of a source reaches the style sheet on several ways.  What a declaration says about its
property, its values and the variables that it names is made of words, numbers, colours and units,
and their characters are few (`Text.Simple`); a brace or a star is not among them.  This is an
invariant of all that is read and stored: tokens (`Token.Plain`), the store (`Store.Plain`) and the
declarations of a program (`Program.plain_of_parse`).  Comments, the arguments of pseudo-classes and
media widths are none of that: they are copied as they were written.
-/

namespace UtilityCss

open Lexer (isNameCharacter isWordPart isWordPart_of_isAlpha isWordPart_of_isDigit
  isWordPart_of_isHexDigit)

variable {text : Text} {store final : Store} {line tokens : List Token}

namespace Text

/-- A character of words, numbers, colours and units, a comma or a space. -/
def isSimple (c : Char) : Bool := isWordPart c || c ∈ ['.', '/', '#', '%', ',', ' ']

/-- A text of simple characters. -/
def Simple (text : Text) : Prop := ∀ c ∈ text, isSimple c = true

namespace Simple

variable {other : Text} {c : Char}

lemma of_words (words : ∀ c ∈ text, isWordPart c = true) : Simple text :=
  fun c mem => Bool.or_eq_true_iff.2 (.inl (words c mem))

lemma of_all (h : text.all isSimple = true) : Simple text := List.all_eq_true.1 h

lemma cons (here : isSimple c = true) (h : Simple text) : Simple (c :: text) :=
  List.forall_mem_cons.2 ⟨here, h⟩

lemma append (h : Simple text) (h' : Simple other) : Simple (text ++ other) :=
  List.forall_mem_append.2 ⟨h, h'⟩

lemma of_subset (h : Simple text) (subset : other ⊆ text) : Simple other :=
  fun c mem => h c (subset mem)

/-- The `Simple` characters are listed by `isSimple`, and brackets are not among them. -/
lemma neutral (h : Simple text) : Neutral text := fun c mem => isNeutral_of_class (h c mem) rfl

end Simple

end Text

open Text (Simple)

/-! ## Tokens -/

/-- What declarations take from the token is simple, and what they take for the name of a variable
is made of the characters of words.  Of a pseudo-class they take the first character behind its
colon, which tags the class name. -/
def Token.Plain : Token → Prop
  | .value literal => Simple literal.toText
  | .valueType unit => Simple unit
  | .variable name => ∀ c ∈ name, isWordPart c = true
  | .variableRef _ unit => ∀ u ∈ unit, Simple u
  | .pseudoClass name => ∀ c ∈ (name.dropWhile (· = ':')).take 1, isNameCharacter c = true
  | _ => True

lemma simple_ofInt (value : Int) : Simple (Text.ofInt value) := by
  have digits (n : Nat) : Simple (Text.ofNat n) :=
    .of_words fun c mem => isWordPart_of_isDigit (Numeral.isDigit_of_mem_ofNat mem)
  cases value with
  | ofNat n => exact digits n
  | negSucc n => exact (digits (n + 1)).cons rfl

lemma simple_of_mem_units (known : text ∈ Vocabulary.units) : Simple text := by
  have all : Vocabulary.units.all (·.all Text.isSimple) = true := by decide
  exact .of_all (List.all_eq_true.1 all text known)

namespace Lexer

lemma IsNumber.simple {sign digits fraction unit : Text}
    (parts : IsNumber sign digits fraction unit) :
    Simple (sign ++ digits ++ fraction ++ unit) := by
  have row {digits : Text} (digital : ∀ c ∈ digits, c.isDigit = true) : Simple digits :=
    .of_words fun c mem => isWordPart_of_isDigit (digital c mem)
  have first : Simple sign := by
    rcases parts.signed with rfl | rfl
    · exact .of_all rfl
    · exact .of_all rfl
  have third : Simple fraction := by
    rcases parts.fractional with rfl | ⟨mark, decimals, rfl, rfl | rfl, -, digital⟩
    · exact .of_all rfl
    · exact (row digital).cons rfl
    · exact (row digital).cons rfl
  have last : Simple unit := .of_words fun c mem => isWordPart_of_isAlpha (parts.alphabetic c mem)
  exact ((first.append (row parts.digital)).append third).append last

lemma Operand.plain {token : Token} (shape : Operand token) : token.Plain := by
  cases shape with
  | reference named known => exact fun u given => simple_of_mem_units (known u given)
  | color hex short =>
    exact Simple.cons rfl (.of_words fun c mem => isWordPart_of_isHexDigit (hex c mem))
  | integer short => exact simple_ofInt _
  | measure parts noInteger => exact parts.simple

lemma Assigned.plain {token : Token} (shape : Assigned token) : token.Plain := by
  cases shape with
  | operand shape => exact shape.plain
  | word shape noUnit => exact .of_words shape.parts

lemma Literal.plain {token : Token} (shape : Literal token) : token.Plain := by
  cases shape with
  | @pseudoClass name argument known closed =>
    have named := isNameCharacter_of_mem_pseudoClasses known
    have given : name ≠ [] := by
      rintro rfl
      exact absurd known (by decide)
    obtain ⟨c, name, rfl⟩ := List.exists_cons_of_ne_nil given
    have first := named c List.mem_cons_self
    have noColon : c ≠ ':' := ne_of_class first rfl
    change ∀ d ∈ ((c :: (name ++ argument)).dropWhile (· = ':')).take 1, isNameCharacter d = true
    rw [List.dropWhile_cons_of_neg (by simpa using noColon)]
    exact List.forall_mem_singleton.2 first
  | percent => exact Simple.of_all rfl
  | operand shape => exact shape.plain
  | symbol shape =>
    unfold Lexer.symbol
    repeat' split
    all_goals trivial
  | mediaValue | mediaVariableRef | identifier => trivial

lemma plain_classify (shape : IsWord text) (prior : List Token) :
    (Token.classify prior text).Plain := by
  unfold Token.classify
  split
  · trivial
  split
  · trivial
  split
  · exact Simple.of_words shape.parts
  split
  · exact shape.parts
  split
  · trivial
  · exact shape.parts

lemma plain_of_step {prior emitted : List Token} {c : Char} {rest : Text}
    (taken : step prior c text = .ok (emitted, rest)) : ∀ token ∈ emitted, token.Plain := by
  rcases step_reads taken with ⟨word, shape, -, same⟩ | ⟨emission, -⟩
  · obtain ⟨rfl, -⟩ := Prod.mk.inj (Except.ok.inj ((same prior).symm.trans taken))
    exact List.forall_mem_singleton.2 (plain_classify shape prior)
  · cases emission with
    | gap => simp
    | comment | newline | layer => exact List.forall_mem_singleton.2 trivial
    | literal shape => exact List.forall_mem_singleton.2 shape.plain
    | assignment shape =>
      exact List.forall_mem_cons.2 ⟨trivial, List.forall_mem_singleton.2 shape.plain⟩

end Lexer

/-! ## Slots -/

/-- The value and the unit are simple. -/
structure Slot.Plain (slot : Slot) : Prop where
  value : Simple slot.value.toText
  unit : ∀ u ∈ slot.unit, Simple u

namespace Slot

variable {slot : Slot} {slots : List Slot}

lemma Plain.render (plain : slot.Plain) {override : Option Text}
    (given : ∀ u ∈ override, Simple u) : Simple (slot.render override) := by
  refine plain.value.append ?_
  cases override with
  | some unit => exact given unit rfl
  | none =>
    cases own : slot.unit with
    | none => exact .of_all rfl
    | some unit => exact plain.unit unit own

lemma simple_renderAll (plain : ∀ slot ∈ slots, slot.Plain) {override : Option Text}
    (given : ∀ u ∈ override, Simple u) : Simple (renderAll slots override) := by
  intro c mem
  rcases Text.mem_of_mem_join mem with blank | ⟨part, listed, inside⟩
  · obtain rfl := List.mem_singleton.1 blank
    rfl
  · obtain ⟨slot, among, rfl⟩ := List.mem_map.1 listed
    exact (plain slot among).render given c inside

lemma plain_of_read (simple : Simple text) (split : read text = .ok slot) : slot.Plain := by
  unfold read at split
  split at split
  · obtain rfl := Except.ok.inj split
    exact ⟨simple, by simp⟩
  rename_i number unit found
  obtain ⟨-, -, left, rfl, -⟩ := parts_of_number? found
  have parts := simple.of_subset (List.subset_append_left _ _)
  have own : ∀ u ∈ (if unit = [] then none else some unit), Simple u := by
    intro u given
    split at given
    · simp at given
    · obtain rfl : unit = u := by simpa using given
      exact parts.of_subset (List.subset_append_right _ _)
  dsimp only at split
  split at split
  · obtain ⟨value, -, rfl⟩ := map_eq_ok_iff.1 split
    exact ⟨simple_ofInt value, own⟩
  · obtain rfl := Except.ok.inj split
    exact ⟨parts.of_subset (List.subset_append_left _ _), own⟩

end Slot

/-! ## The store -/

/-- All names of the store are made of the characters of words, and all values are simple. -/
def Store.Plain (store : Store) : Prop :=
  ∀ name slots, store.slots? name = some slots →
    (∀ c ∈ name, isWordPart c = true) ∧ ∀ slot ∈ slots, slot.Plain

lemma Store.plain_empty : Store.empty.Plain := by
  intro name slots found
  simp [slots?, Store.empty] at found

namespace Assignment

variable {slots : List Slot} {assignment : Assignment}

lemma plain_literalSlot {literal : Scalar} {slot : Slot} (simple : Simple literal.toText)
    (split : literalSlot literal = .ok slot) : slot.Plain := by
  cases literal with
  | text content => exact Slot.plain_of_read simple (literalSlot_text.1 split)
  | integer | decimal =>
    obtain rfl := Except.ok.inj split
    exact ⟨simple, by simp⟩

lemma plain_step {token : Token} {following : Option Token} {result : List Slot}
    (known : store.Plain) (plain : ∀ slot ∈ slots, slot.Plain) (here : token.Plain)
    (next : ∀ token ∈ following, token.Plain)
    (taken : step store slots token following = .ok result) : ∀ slot ∈ result, slot.Plain := by
  have bare {content : Text} (simple : Simple content) : Slot.Plain ⟨.text content, none⟩ :=
    ⟨simple, by simp⟩
  unfold step at taken
  split at taken
  · rename_i literal
    obtain ⟨slot, split, rfl⟩ := map_eq_ok_iff.1 taken
    have own := plain_literalSlot here split
    refine List.forall_mem_cons.2 ⟨⟨own.value, fun u given => ?_⟩, plain⟩
    unfold unitOf at given
    split at given
    · obtain rfl := Option.some.inj given
      exact next _ rfl
    · exact own.unit u given
  · obtain rfl := Except.ok.inj taken
    exact List.forall_mem_cons.2 ⟨bare (.of_words here), plain⟩
  · split at taken
    · simp at taken
    · rename_i name unit _ copied bound
      obtain rfl := Except.ok.inj taken
      refine List.forall_mem_append.2 ⟨fun slot mem => ?_, plain⟩
      obtain ⟨original, inside, rfl⟩ := List.mem_map.1 (List.mem_reverse.1 mem)
      have own := (known name copied bound).2 original inside
      refine ⟨own.value, fun u given => ?_⟩
      change u ∈ (unit <|> original.unit) at given
      cases unit with
      | none => exact own.unit u given
      | some overriding => exact here u given
  · split at taken
    · simp at taken
    · rename_i last slots _
      obtain rfl := Except.ok.inj taken
      obtain ⟨first, others⟩ := List.forall_mem_cons.1 plain
      refine List.forall_mem_cons.2 ⟨bare ?_, others⟩
      exact (first.render (by simp)).append (.of_all rfl)
  · obtain rfl := Except.ok.inj taken
    exact plain

lemma plain_slotsFrom {result : List Slot} (known : store.Plain)
    (plain : ∀ slot ∈ slots, slot.Plain) (given : ∀ token ∈ tokens, token.Plain)
    (gathered : slotsFrom store slots tokens = .ok result) : ∀ slot ∈ result, slot.Plain := by
  induction tokens generalizing slots with
  | nil =>
    obtain rfl := Except.ok.inj gathered
    exact plain
  | cons token tokens ih =>
    obtain ⟨here, later⟩ := List.forall_mem_cons.1 given
    obtain ⟨between, taken, gathered⟩ := bind_eq_ok_iff.1 gathered
    have next : ∀ token ∈ tokens.head?, token.Plain := fun token first =>
      later token (List.mem_of_mem_head? first)
    exact ih (plain_step known plain here next taken) later gathered

lemma plain_name_of_split (plain : ∀ token ∈ line, token.Plain) :
    ∀ name ∈ (split line).1, ∀ c ∈ name, isWordPart c = true := by
  have named {part : List Token} (inside : part ⊆ line) : ∀ name ∈ part.filterMap name?,
      ∀ c ∈ name, isWordPart c = true := by
    intro name mem
    obtain ⟨token, found, same⟩ := List.mem_filterMap.1 mem
    unfold name? at same
    split at same
    · obtain rfl := Option.some.inj same
      exact plain _ (inside found)
    · simp at same
  unfold split
  split
  · exact named (List.takeWhile_prefix _).subset
  split
  · rename_i head value shape
    have left : head :: value <:+ line := shape ▸ List.dropWhile_suffix _
    exact named (List.cons_subset.2 ⟨left.subset List.mem_cons_self, List.nil_subset _⟩)
  · simp

lemma plain_read (known : store.Plain) (plain : ∀ token ∈ line, token.Plain)
    (read : Assignment.read store line = .ok assignment) : (assignment.apply store).Plain := by
  have declared := (declared_of_read read).1
  obtain ⟨name, -, read⟩ := bind_eq_ok_iff.1 read
  obtain ⟨slots, gathered, read⟩ := bind_eq_ok_iff.1 read
  split at read
  · simp at read
  obtain rfl := Except.ok.inj read
  have value : ∀ token ∈ (split line).2, token.Plain := fun token mem =>
    plain token (split_subset line mem)
  have made := plain_slotsFrom known (by simp) value gathered
  intro asked found bound
  rw [apply, Store.slots?_bind] at bound
  split at bound
  · rename_i same
    obtain rfl := Option.some.inj bound
    refine ⟨plain_name_of_split plain asked (by simp [declared, same]), fun slot mem => ?_⟩
    exact made slot (List.mem_reverse.1 mem)
  · exact known asked found bound

end Assignment

/-! ## Declarations -/

/-- What a declaration says is simple, but for its pseudo-class and its media condition.  The
variables that it names are made of the characters of words. -/
structure Declaration.Plain (declaration : Declaration) : Prop where
  property : declaration.property ∈ Vocabulary.properties
  values : ∀ value ∈ declaration.values, Simple value
  optionalName : ∀ name ∈ declaration.optionalName, ∀ c ∈ name, isWordPart c = true
  pseudoClass : ∀ name ∈ declaration.pseudoClass,
    ∀ c ∈ (name.dropWhile (· = ':')).take 1, isNameCharacter c = true

/-- The values gathered so far are simple, and the names of the variables among them are made of the
characters of words. -/
structure Gathered.Plain (gathered : Gathered) : Prop where
  values : ∀ value ∈ gathered.values, Simple value
  references : ∀ name ∈ gathered.references, ∀ c ∈ name, isWordPart c = true

namespace Gathered

variable {gathered result : Gathered}

lemma Plain.empty : Gathered.empty.Plain := ⟨by simp [Gathered.empty], by simp [Gathered.empty]⟩

lemma Plain.step (plain : gathered.Plain) (known : store.Plain) {token : Token}
    {previous following : Option Token} (here : token.Plain)
    (next : ∀ token ∈ following, token.Plain)
    (taken : gathered.step store previous token following = .ok result) : result.Plain := by
  have literal {text : Text} (simple : Simple text) : (gathered.addLiteral text).Plain :=
    ⟨List.forall_mem_cons.2 ⟨simple, plain.values⟩, plain.references⟩
  unfold Gathered.step at taken
  split at taken
  · obtain rfl := Except.ok.inj taken
    refine literal (Simple.append here ?_)
    unfold unitOf
    split
    · exact next _ rfl
    · exact .of_all rfl
  · obtain rfl := Except.ok.inj taken
    exact literal (.of_words here)
  · split at taken
    · simp at taken
    · rename_i bound
      obtain rfl := Except.ok.inj taken
      obtain ⟨named, slots⟩ := known _ _ bound
      exact ⟨List.forall_mem_cons.2 ⟨Slot.simple_renderAll slots here, plain.values⟩,
        List.forall_mem_cons.2 ⟨named, plain.references⟩⟩
  · split at taken
    · obtain rfl := Except.ok.inj taken
      exact plain
    · simp at taken
  · split at taken
    · simp at taken
    · rename_i last values given
      obtain rfl := Except.ok.inj taken
      obtain ⟨first, others⟩ := List.forall_mem_cons.1 (given ▸ plain.values)
      exact ⟨List.forall_mem_cons.2 ⟨first.append (.of_all rfl), others⟩, plain.references⟩
  · obtain rfl := Except.ok.inj taken
    exact plain

lemma Plain.gather (plain : gathered.Plain) (known : store.Plain) {previous : Option Token}
    (given : ∀ token ∈ line, token.Plain)
    (taken : gathered.gather store previous line = .ok result) : result.Plain := by
  induction line generalizing gathered previous with
  | nil =>
    obtain rfl := Except.ok.inj taken
    exact plain
  | cons token line ih =>
    obtain ⟨here, later⟩ := List.forall_mem_cons.1 given
    obtain ⟨between, first, taken⟩ := bind_eq_ok_iff.1 taken
    have next : ∀ token ∈ line.head?, token.Plain := fun token head =>
      later token (List.mem_of_mem_head? head)
    exact ih (plain.step known here next first) later taken

lemma Plain.name? (plain : gathered.Plain) :
    ∀ name ∈ gathered.name?, ∀ c ∈ name, isWordPart c = true := by
  intro name given c mem
  unfold Gathered.name? at given
  split at given
  · obtain rfl := Option.some.inj given
    rcases Text.mem_of_mem_join mem with hyphen | ⟨part, listed, inside⟩
    · obtain rfl := List.mem_singleton.1 hyphen
      rfl
    · exact plain.references part (List.mem_reverse.1 listed) c inside
  · simp at given

end Gathered

lemma mem_properties_of_expansion {base : Text} {identifier : Option Text} {names : List Text}
    (expanded : expansion base identifier = .ok names) :
    ∀ name ∈ names, name ∈ Vocabulary.properties := by
  obtain ⟨found, -, expanded⟩ := bind_eq_ok_iff.1 expanded
  split at expanded
  · simp at expanded
  · rename_i listed
    obtain rfl := Except.ok.inj expanded
    simpa using listed

namespace Addition

variable {addition : Addition}

lemma mem_properties {names : List Text} (named : addition.properties = .ok names) :
    ∀ name ∈ names, name ∈ Vocabulary.properties := by
  unfold properties at named
  split at named
  · exact mem_properties_of_expansion named
  · obtain ⟨parts, expanded, named⟩ := bind_eq_ok_iff.1 named
    obtain rfl := Except.ok.inj named
    intro name mem
    obtain ⟨part, listed, inside⟩ := List.mem_flatten.1 mem
    obtain ⟨identifier, -, made⟩ := exists_of_mem_mapM expanded listed
    exact mem_properties_of_expansion made name inside

/-- `Addition.declaration` takes its texts from the tokens of the line and from the store, so it is
plain if these are. -/
lemma plain_declaration (known : store.Plain) (plain : ∀ token ∈ line, token.Plain)
    (read : Addition.read store line = .ok addition) {names : List Text}
    (named : addition.properties = .ok names) {property : Text} (listed : property ∈ names) :
    (addition.declaration store property).Plain := by
  have property := mem_properties named property listed
  obtain ⟨base, -, read⟩ := bind_eq_ok_iff.1 read
  obtain ⟨gathered, taken, read⟩ := bind_eq_ok_iff.1 read
  have made := Gathered.Plain.empty.gather known plain taken
  split at read
  · simp at read
  obtain ⟨pseudoClass, single, read⟩ := bind_eq_ok_iff.1 read
  obtain ⟨media, -, read⟩ := bind_eq_ok_iff.1 read
  obtain rfl := Except.ok.inj read
  refine ⟨property, fun value mem => made.values value (List.mem_reverse.1 mem), made.name?,
    fun name given => ?_⟩
  obtain ⟨token, mem, same⟩ := List.exists_of_findSome?_eq_some
    ((findSome?_of_atMostOne single).trans given)
  unfold pseudoClass? at same
  split at same
  · obtain rfl := Option.some.inj same
    exact plain _ mem
  · simp at same

end Addition

/-! ## Programs -/

namespace Program

variable {records : List Record} {declaration : Declaration}

lemma plain_define (known : store.Plain) (plain : ∀ token ∈ line, token.Plain) :
    (Statement.define store line).Plain := by
  unfold Statement.define
  split
  · rename_i read
    exact Assignment.plain_read known plain read
  · exact known

lemma plain_store {effect : Effect} (known : store.Plain) (plain : ∀ token ∈ line, token.Plain)
    (interpreted : Statement.interpret store line = .ok effect) : (effect.store store).Plain := by
  rw [Statement.store_of_interpret interpreted]
  split
  · exact plain_define known plain
  · exact known

/-- Definitions keep the store plain, one by one: the slots of an assignment are made of tokens and
of slots that were stored before. -/
lemma plain_defined {lines : List (List Token)} (known : store.Plain)
    (plain : ∀ line ∈ lines, ∀ token ∈ line, token.Plain) : (defined store lines).Plain := by
  induction lines generalizing store with
  | nil => exact known
  | cons line lines ih =>
    obtain ⟨here, later⟩ := List.forall_mem_cons.1 plain
    rw [defined_cons, defined_singleton]
    refine ih ?_ later
    split
    · exact plain_define known here
    · exact known

lemma plain_run {lines : List (List Token)} (known : store.Plain)
    (plain : ∀ line ∈ lines, ∀ token ∈ line, token.Plain)
    (ran : run store lines = (.ok records, final)) (mem : .rule declaration ∈ records) :
    declaration.Plain := by
  induction lines generalizing store records with
  | nil =>
    obtain rfl := Except.ok.inj (Prod.mk.inj ran).1
    simp at mem
  | cons line lines ih =>
    obtain ⟨here, later⟩ := List.forall_mem_cons.1 plain
    obtain ⟨effect, rest, interpreted, after, rfl⟩ := run_cons_eq_ok ran
    rcases List.mem_append.1 mem with first | others
    · obtain ⟨addition, names, property, added, named, listed, rfl⟩ :=
        Statement.exists_addition_of_mem interpreted first
      obtain ⟨-, -, read⟩ := bind_eq_ok_iff.1 added
      exact Addition.plain_declaration known here read named listed
    · exact ih (plain_store known here interpreted) later after others

lemma plain_of_tokens (read : Lexer.tokens text = .ok tokens) : ∀ token ∈ tokens, token.Plain :=
  Lexer.forall_of_tokensFrom (fun _ _ _ _ _ => Lexer.plain_of_step) (List.forall_mem_nil _)
    (Lexer.tokensFrom_of_tokens read)

lemma plain_of_mem_group (plain : ∀ token ∈ tokens, token.Plain) :
    ∀ line ∈ Line.group tokens, ∀ token ∈ line, token.Plain := fun _ grouped token inside =>
  plain token ((Line.mem_of_mem_groupFrom grouped inside).resolve_left (by simp))

/-- `plain_of_tokens` for the tokens and `plain_run` for the lines, which keeps the store plain as
it goes; `Record.tidy` adds nothing (`Record.tidy_subset`). -/
theorem plain_of_parse (known : store.Plain) (read : Lexer.tokens text = .ok tokens)
    (parsed : parse store tokens = (.ok records, final)) (mem : .rule declaration ∈ records) :
    declaration.Plain := by
  obtain ⟨all, ran, rfl⟩ := parse_eq_ok parsed
  exact plain_run known (plain_of_mem_group (plain_of_tokens read)) ran (Record.tidy_subset all mem)

lemma plain_parse (read : Lexer.tokens text = .ok tokens)
    (parsed : parse .empty tokens = (.ok records, final)) (mem : .rule declaration ∈ records) :
    declaration.Plain :=
  plain_of_parse Store.plain_empty read parsed mem

end Program

end UtilityCss
