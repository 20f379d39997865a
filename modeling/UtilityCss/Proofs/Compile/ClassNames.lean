import UtilityCss.Proofs.Compile.Blocks
import UtilityCss.Proofs.Compile.SharedStore

/-!
# The class names of a style sheet

A class name takes texts from its declaration, and these come from the source and from the store
that it was compiled against.  As long as texts are all that fills the store (`Compile.Shared`), it
is plain, and so are the declarations.  The names in the style sheet are then made of letters,
digits, underscores, hyphens and at signs (`Compile.source_classNames`).  The at sign is there
because a word may have one: it makes a class name that a style sheet cannot have
(`Compile.source_at_sign`).
-/

namespace UtilityCss

open Lexer (isNameCharacter)

/-- What the class name of a rule is made of. -/
structure Rule.Named (rule : Rule) (declaration : Declaration) (name : Text) : Prop where
  /-- The name stands between a dot and the pseudo-class. -/
  selector : rule.selector = '.' :: (name ++ Item.pseudo declaration)
  given : name ≠ []
  /-- Letters, digits, underscores and hyphens, and perhaps at signs. -/
  characters : ∀ c ∈ name, isNameCharacter c = true ∨ c = '@'
  /-- There are no at signs exactly if the variables or the values that are named have none. -/
  valid : (∀ c ∈ name, isNameCharacter c = true) ↔ ∀ part ∈ ClassName.label declaration, '@' ∉ part

lemma Rule.named_of_ruleOf {format : ClassNameFormat} {declaration : Declaration} {rule : Rule}
    (plain : declaration.Plain)
    (digits : ∀ condition ∈ ClassName.present declaration.media,
      ∀ c ∈ Media.tag condition, c.isDigit = true)
    (made : Item.ruleOf format declaration = .ok rule) :
    rule.Named declaration (ClassName.name format declaration) := by
  obtain ⟨value, -, rfl⟩ := map_eq_ok_iff.1 made
  have characters : ∀ c ∈ ClassName.name format declaration, isNameCharacter c = true ∨ c = '@' :=
    fun _ => ClassName.isNameCharacter_or_at plain digits
  have kept := ClassName.at_mem_name_iff format plain
  refine ⟨rfl, ClassName.name_ne_nil format declaration, characters, ?_, ?_⟩
  · intro named part listed mem
    exact absurd (named '@' (kept.2 ⟨part, listed, mem⟩)) (by decide)
  · intro none c mem
    refine (characters c mem).resolve_right ?_
    rintro rfl
    obtain ⟨part, listed, inside⟩ := kept.1 mem
    exact none part listed inside

namespace Compile

variable {store final : Store} {text : Text} {result : Except Error Compilation}

/-- The stores that texts can fill: a new one, and the one that is left when a text is compiled
against such a store, whether or not that succeeds. -/
inductive Shared : Store → Prop
  | fresh : Shared .empty
  | after {store : Store} (options : OptionTexts) (text : Text) (shared : Shared store) :
      Shared (Compile.source options store text).2

lemma Leaves.plain (known : store.Plain) (left : Leaves store text result final) :
    final.Plain := by
  have lines {tokens : List Token} (read : Lexer.tokens text = .ok tokens) :=
    Program.plain_of_mem_group (Program.plain_of_tokens read)
  cases left with
  | options | lexical => exact known
  | semantic read cut refused =>
    exact Program.plain_defined known fun line executed =>
      lines read line (cut ▸ List.mem_append_left _ executed)
  | render read => exact Program.plain_defined known (lines read)
  | compiled read => exact Program.plain_defined known (lines read)

lemma Shared.plain (shared : Shared store) : store.Plain := by
  induction shared with
  | fresh => exact Store.plain_empty
  | after options text _ known =>
    unfold Compile.source
    split
    · exact known
    · exact (leaves_checked _ _ text).plain known

/-- In whatever `ClassNameFormat`, each rule of the style sheet is that of a declaration and has a
class name of `isNameCharacter`s, unless the words that are named in it have at signs
(`Rule.Named`).  The store may be `Shared`, since what earlier sources bound to a name is plain as
well (`Shared.plain`). -/
theorem source_classNames (options : OptionTexts) (store : Store) (text : Text)
    (compilation : Compilation) (shared : Shared store)
    (compiled : (Compile.source options store text).1 = .ok compilation) :
    ∃ valid lines, options.validate = .ok valid ∧
      Sheet.entries valid.style compilation.records = .ok lines ∧
      compilation.css = Entry.renderAll valid.style.mode lines ∧
      ∀ rule ∈ lines.flatMap Entry.rules, ∃ declaration name,
        .rule declaration ∈ compilation.records ∧
        Item.ruleOf valid.style.format declaration = .ok rule ∧ rule.Named declaration name := by
  obtain ⟨valid, accepted, checked⟩ := source_eq_ok_iff.1 compiled
  obtain ⟨final, read, parsed, written, -⟩ := checked_eq_ok_iff.1 checked
  obtain ⟨values, conditions, css⟩ := Sheet.generate_eq_ok_iff.1 written
  refine ⟨valid, Sheet.plan valid.style compilation.records, accepted,
    Sheet.entries_eq_ok_iff.2 ⟨values, conditions, rfl⟩, css, fun rule mem => ?_⟩
  obtain ⟨found, listed, rfl⟩ :=
    List.mem_map.1 ((Sheet.flatMap_rules_plan valid.style compilation.records).mem_iff.1 mem)
  obtain ⟨declaration, given, made⟩ := Sheet.exists_of_mem_rule? listed
  have plain := Program.plain_of_parse shared.plain read parsed given
  have digits : ∀ condition ∈ ClassName.present declaration.media,
      ∀ c ∈ Media.tag condition, c.isDigit = true := by
    intro condition under c
    have declared : condition ∈ Sheet.conditions compilation.records :=
      mem_firstSeen.2 (List.mem_filterMap.2 ⟨.rule declaration, given, under⟩)
    exact Media.isDigit_of_mem_tag (conditions condition declared)
  exact ⟨declaration, _, given, made, Rule.named_of_ruleOf plain digits made⟩

/-- `checked_of_stages` behind the check of the options.  Witnesses use it to evaluate the stages
one by one. -/
lemma source_of_stages {options : OptionTexts} {valid : Options} {tokens : List Token}
    {records : List Record} {css : Text} (accepted : options.validate = .ok valid)
    (read : Lexer.tokens text = .ok tokens)
    (parsed : Program.parse store tokens = (.ok records, final))
    (written : Sheet.generate valid.style records = .ok css) :
    Compile.source options store text = (.ok ⟨css, records, tokens, final.all, []⟩, final) := by
  unfold Compile.source
  simp only [accepted, checked_of_stages read parsed written]

/-- A variable with an at sign in its name. -/
def atStore : Store := ⟨[("a@b", [⟨.integer 1, some "px"⟩])]⟩

/-- A rule with the name of the variable, under a media width, and one with a number. -/
def atTokens : List Token :=
  [.keyword "ADD", .property "width", .variableRef "a@b" none, .pseudoClass ":hover",
    .mediaValue "640px", .newline, .keyword "ADD", .property "width", .value (.integer 50),
    .valueType "%"]

/-- The records of the two rules. -/
def atRecords : List Record :=
  [.rule ⟨"width", ["1px"], some "a@b", some ":hover", some "(min-width: 640px)",
      List.cons_ne_nil _ _⟩,
    .rule ⟨"width", ["50%"], none, none, none, List.cons_ne_nil _ _⟩]

theorem source_classNames_shared :
    let options : OptionTexts := { mode := "minimalistic", mobileFirst := true }
    let store := (Compile.source options .empty "VAR a@b = 1px").2
    ∃ compilation, Shared store ∧
      (Compile.source options store
          ("ADD width " ++ Text.braced "a@b" ++ ":hover@640px\nADD width 50%")).1 =
        .ok compilation ∧
      ∃ lines, Sheet.entries ⟨.minimalistic, .minimalistic, false, true⟩ compilation.records =
          .ok lines ∧
        (lines.flatMap Entry.rules).map Rule.selector =
          [".w_50p".toList, ".w_a@b_h_m640:hover".toList] ∧
        ∀ rule ∈ lines.flatMap Entry.rules, ∃ declaration name,
          .rule declaration ∈ compilation.records ∧ rule.Named declaration name := by
  intro options store
  let valid : Options := ⟨⟨.minimalistic, .minimalistic, false, true⟩, [], ".lui"⟩
  have accepted : options.validate = .ok valid := rfl
  have defining : Lexer.tokens "VAR a@b = 1px" = .ok
      [.keyword "VAR", .variable "a@b", .symbol .equals [], .value (.text "1px")] := by
    decide +kernel
  have read : Lexer.tokens
      ("ADD width " ++ Text.braced "a@b" ++ ":hover@640px\nADD width 50%") = .ok atTokens := by
    decide +kernel
  have defined : Program.parse .empty
      [.keyword "VAR", .variable "a@b", .symbol .equals [], .value (.text "1px")] =
        (.ok [], atStore) := rfl
  have parsed : Program.parse atStore atTokens = (.ok atRecords, atStore) := by
    decide +kernel
  have stored : store = atStore :=
    congrArg Prod.snd (source_of_stages accepted defining defined rfl)
  obtain ⟨css, written⟩ : ∃ css, Sheet.generate valid.style atRecords = .ok css := ⟨_, rfl⟩
  have compiled : (Compile.source options store _).1 = .ok ⟨css, atRecords, atTokens, _, []⟩ :=
    congrArg Prod.fst (source_of_stages accepted read (stored ▸ parsed) written)
  have shared : Shared store := .after options _ .fresh
  obtain ⟨checked, lines, same, made, -, named⟩ :=
    source_classNames options store _ _ shared compiled
  obtain rfl : valid = checked := Except.ok.inj (accepted.symm.trans same)
  obtain ⟨-, -, rfl⟩ := Sheet.entries_eq_ok_iff.1 made
  refine ⟨_, shared, compiled, _, made, rfl, fun rule mem => ?_⟩
  obtain ⟨declaration, name, given, -, own⟩ := named rule mem
  exact ⟨declaration, name, given, own⟩

/-- The at sign is an `isWordPart` but no `isNameCharacter`: a word with one is a value of its own,
and `ClassName` copies it. -/
theorem source_at_sign :
    let options : OptionTexts := { mode := "minimalistic" }
    ∃ compilation rule, (Compile.source options .empty "ADD animation a@b").1 = .ok compilation ∧
      compilation.css = ".a_a@b" ++ Text.braced "animation:a@b" ∧
      Sheet.entries ⟨.minimalistic, .minimalistic, false, false⟩ compilation.records =
        .ok [.rule 0 rule] ∧
      rule.selector = '.' :: "a_a@b".toList ∧
      ¬∀ c ∈ "a_a@b".toList, isNameCharacter c = true := by
  intro options
  let valid : Options := ⟨⟨.minimalistic, .minimalistic, false, false⟩, [], ".lui"⟩
  have accepted : options.validate = .ok valid := rfl
  have read : Lexer.tokens "ADD animation a@b" =
      .ok [.keyword "ADD", .property "animation", .variable "a@b"] := by decide +kernel
  have compiled : Compile.source options .empty "ADD animation a@b" = _ :=
    source_of_stages accepted read rfl rfl
  refine ⟨_, _, congrArg Prod.fst compiled, rfl, rfl, rfl, fun named => ?_⟩
  exact absurd (named '@' (by decide)) (by decide)

end Compile

end UtilityCss
