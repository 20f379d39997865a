import Mathlib.Data.List.Infix
import Mathlib.Data.List.Nodup
import Mathlib.Data.List.Perm.Basic
import UtilityCss.Proofs.Outcome
import UtilityCss.Sheet.Generate

/-!
# What a style sheet consists of

A style sheet has four parts (`Sheet.plan`): the order of the layers, one entry for each record that
is written in its place, the ends of the layers that were left open, and one block for each media
condition.  Each part is given here in terms of the records alone: what a record is written as
depends on the records before it (`along`), of which the number of open layers is all that counts.

`Sheet.composed` says that the generator writes down just these parts, and when it refuses to.
-/

namespace UtilityCss

/-! ## Elements with those before them -/

section

variable {α β γ : Type}

/-- What the elements of a list give, each together with the elements before it. -/
def along (f : List α → α → Option β) (all : List α) : List β :=
  (all.inits.zip all).filterMap fun (before, x) => f before x

@[simp] lemma along_nil (f : List α → α → Option β) : along f [] = [] := rfl

@[simp] lemma along_cons (f : List α → α → Option β) (x : α) (all : List α) :
    along f (x :: all) = (f [] x).toList ++ along (fun before => f (x :: before)) all := by
  rw [along, List.inits_cons, List.zip_cons_cons, List.zip_map_left, List.filterMap_cons,
    List.filterMap_map]
  change (match f [] x with | none => _ | some y => _) = _
  cases f [] x <;> rfl

lemma flatMap_along {f : List α → α → Option β} {g : β → List γ} {h : α → List γ}
    (same : ∀ before x, (f before x).toList.flatMap g = h x) (all : List α) :
    (along f all).flatMap g = all.flatMap h := by
  induction all generalizing f with
  | nil => rfl
  | cons x all ih =>
    rw [along_cons, List.flatMap_append, same, ih fun before => same (x :: before),
      List.flatMap_cons]

lemma exists_of_mem_along {f : List α → α → Option β} {all : List α} {y : β}
    (mem : y ∈ along f all) : ∃ before x, x ∈ all ∧ f before x = some y := by
  obtain ⟨⟨before, x⟩, paired, found⟩ := List.mem_filterMap.1 mem
  exact ⟨before, x, (List.of_mem_zip paired).2, found⟩

/-- The elements of a list, each where it is first seen. -/
def firstSeen [BEq α] [LawfulBEq α] (all : List α) : List α :=
  along (fun before x => if x ∈ before then none else some x) all

lemma eraseDups_eq_firstSeen [BEq α] [LawfulBEq α] (all : List α) :
    all.eraseDups = firstSeen all := by
  -- The elements that are passed over are those in `seen`, which grows along the list.
  suffices general : ∀ (all seen : List α), (all.filter (· ∉ seen)).eraseDups =
      along (fun before x => if x ∈ seen ++ before then none else some x) all by
    simpa [firstSeen] using general all []
  intro all
  induction all with
  | nil => exact fun _ => rfl
  | cons x all ih =>
    intro seen
    by_cases known : x ∈ seen
    · have same : ∀ before y, y ∈ seen ++ x :: before ↔ y ∈ seen ++ before := by
        intro before y
        by_cases equal : y = x <;> simp [equal, known]
      rw [List.filter_cons_of_neg (by simpa using known), ih seen, along_cons]
      simp only [same, List.append_nil, known, if_true, Option.toList_none, List.nil_append]
    · have others : (all.filter (· ∉ seen)).filter (fun y => !y == x) =
          all.filter (· ∉ seen ++ [x]) := by
        rw [List.filter_filter]
        congr 1
        funext y
        by_cases equal : y = x <;> simp [equal]
      rw [List.filter_cons_of_pos (by simpa using known), List.eraseDups_cons, others,
        ih (seen ++ [x]), along_cons]
      simp only [List.append_nil, known, if_false, Option.toList_some, List.singleton_append,
        List.append_assoc]

lemma mem_firstSeen [BEq α] [LawfulBEq α] {all : List α} {x : α} : x ∈ firstSeen all ↔ x ∈ all := by
  rw [← eraseDups_eq_firstSeen, List.mem_eraseDups]

lemma nodup_firstSeen [BEq α] [LawfulBEq α] (all : List α) : (firstSeen all).Nodup := by
  rw [← eraseDups_eq_firstSeen]
  match all with
  | [] => simp
  | x :: all =>
    rw [List.eraseDups_cons, List.nodup_cons, eraseDups_eq_firstSeen]
    exact ⟨by simp [mem_firstSeen], nodup_firstSeen (all.filter fun y => !y == x)⟩
termination_by all.length
decreasing_by exact Nat.lt_succ_of_le (List.length_filter_le _ _)

lemma firstSeen_concat [BEq α] [LawfulBEq α] (all : List α) (x : α) :
    firstSeen (all ++ [x]) = if x ∈ all then firstSeen all else firstSeen all ++ [x] := by
  rw [← eraseDups_eq_firstSeen, List.eraseDups_append, ← eraseDups_eq_firstSeen]
  split
  · rename_i known
    simp [List.removeAll, known]
  · rename_i unknown
    simp [List.removeAll, unknown, List.eraseDups_cons]

/-- Elements that are sorted by their keys are all there, and none of them twice.
`flatMap_rules_plan` uses it for rules and their media conditions. -/
lemma flatMap_filter_perm [DecidableEq α] {keys : List α} (distinct : keys.Nodup)
    (all : List (α × β)) (keyed : ∀ x ∈ all, x.1 ∈ keys) :
    (keys.flatMap fun key => all.filter (·.1 = key)).Perm all := by
  induction keys generalizing all with
  | nil =>
    obtain rfl : all = [] :=
      List.eq_nil_iff_forall_not_mem.2 fun x mem => by simpa using keyed x mem
    exact .nil
  | cons key keys ih =>
    obtain ⟨fresh, distinct⟩ := List.nodup_cons.1 distinct
    have others : keys.flatMap (fun other => all.filter (·.1 = other)) =
        keys.flatMap fun other =>
          (all.filter fun x => !decide (x.1 = key)).filter (·.1 = other) := by
      refine List.flatMap_congr fun other mem => ?_
      have apart : other ≠ key := fun equal => fresh (equal ▸ mem)
      rw [List.filter_filter]
      refine List.filter_congr fun x _ => ?_
      by_cases same : x.1 = other <;> simp [same, apart]
    rw [List.flatMap_cons, others]
    refine (List.Perm.append_left _ (ih distinct _ fun x mem => ?_)).trans
      (List.filter_append_perm _ all)
    obtain ⟨mem, apart⟩ := List.mem_filter.1 mem
    exact (List.mem_cons.1 (keyed x mem)).resolve_left (by simpa using apart)

end

/-! ## The parts of a style sheet -/

namespace Record

/-- The declaration of a record. -/
def declaration? : Record → Option Declaration
  | .rule declaration => some declaration
  | _ => none

/-- The name of the layer that a record begins or ends. -/
def layer? : Record → Option Text
  | .layer name _ => some name
  | _ => none

/-- The media condition that a record stands under. -/
def condition? : Record → Option Text
  | .rule declaration => ClassName.present declaration.media
  | _ => none

/-- The rule of a record whose value can be written, with its media condition. -/
def rule? (format : ClassNameFormat) : Record → Option (Option Text × Rule)
  | .rule declaration =>
    (Item.ruleOf format declaration).toOption.map (ClassName.present declaration.media, ·)
  | _ => none

/-- The number of open layers after a record.  To end a layer where none is open changes nothing. -/
def openAfter (layers : Nat) : Record → Nat
  | .layer _ .start => layers + 1
  | .layer _ .stop => layers - 1
  | _ => layers

/-- Every value of the records can be written. -/
def Accepted (records : List Record) : Prop :=
  ∀ declaration, .rule declaration ∈ records →
    ∃ value, Value.validate declaration.property declaration.joined = .ok value

end Record

namespace Sheet

variable {style : Style} {records before : List Record} {written : List Item} {record : Record}
  {item : Item}

/-- The number of layers that are open after records, as far as layers are kept. -/
def depth (style : Style) (records : List Record) : Nat :=
  if style.layers then records.foldl Record.openAfter 0 else 0

/-- The names of the layers of the records, in the order in which they are first seen. -/
def layerNames (records : List Record) : List Text := firstSeen (records.filterMap Record.layer?)

/-- The media conditions of the records, in the order in which they are first seen. -/
def conditions (records : List Record) : List Text :=
  firstSeen (records.filterMap Record.condition?)

/-- The rules of the records under a media condition, or under none. -/
def rulesUnder (style : Style) (condition : Option Text) (records : List Record) : List Rule :=
  ((records.filterMap (Record.rule? style.format)).filter (·.1 = condition)).map Prod.snd

/-- The entry of a record in its place. -/
def inPlace? (style : Style) (before : List Record) : Record → Option Entry
  | .comment text => some (.comment (depth style before) text)
  | .layer name .start =>
    if style.layers then some (.openLayer (depth style before) name) else none
  | .layer name .stop =>
    if style.layers then some (.closeLayer (depth style (before ++ [.layer name .stop]))) else none
  | .rule declaration =>
    if ClassName.present declaration.media = none then
      (Item.ruleOf style.format declaration).toOption.map (.rule (depth style before))
    else none

/-- The order of the layers, where there are any. -/
def preamble (style : Style) (records : List Record) : List Entry :=
  if style.layers ∧ layerNames records ≠ [] then [.layerOrder (layerNames records)] else []

/-- The ends of the layers that are left open, the innermost first. -/
def closing (style : Style) (records : List Record) : List Entry :=
  (List.range (depth style records)).reverse.map .closeLayer

/-- One block for each media condition. -/
def mediaBlocks (style : Style) (records : List Record) : List Entry :=
  (conditions records).map fun condition =>
    .media (Media.oriented style.mobileFirst condition) (rulesUnder style (some condition) records)

/-- The whole style sheet. -/
def plan (style : Style) (records : List Record) : List Entry :=
  preamble style records ++ along (inPlace? style) records ++ closing style records ++
    mediaBlocks style records

/-- Every media condition of the records can be written. -/
def ConditionsValid (style : Style) (records : List Record) : Prop :=
  ∀ condition ∈ conditions records, Media.isValid (Media.oriented style.mobileFirst condition)

/-! ## The entries that are made -/

lemma depth_append_singleton : depth style (before ++ [record]) =
    if style.layers then record.openAfter (depth style before) else 0 := by
  unfold depth
  split <;> simp

lemma closers_eq (layers : Nat) : closers layers = (List.range layers).reverse.map .closeLayer := by
  induction layers with
  | zero => rfl
  | succ layers ih => simp [closers, List.range_succ, ih]

/-- `body` counts the open layers as it goes; `depth style before` is the same number, read off the
records before.  The induction moves one record at a time to `before`. -/
lemma body_eq (before : List Record) (h : items style records = .ok written) :
    body style.layers (depth style before) written =
      along (fun more => inPlace? style (before ++ more)) records ++
        closing style (before ++ records) := by
  induction records generalizing before written with
  | nil =>
    obtain rfl := Except.ok.inj h
    simp [body, closers_eq, closing]
  | cons record records ih =>
    rw [items, List.mapM_cons] at h
    obtain ⟨item, here, h⟩ := bind_eq_ok_iff.1 h
    obtain ⟨others, there, h⟩ := bind_eq_ok_iff.1 h
    obtain rfl := Except.ok.inj h
    have later := ih (before ++ [record]) there
    simp only [List.append_assoc, List.singleton_append] at later
    rw [along_cons, List.append_assoc, ← later, List.append_nil, depth_append_singleton]
    cases record with
    | comment text =>
      obtain rfl := Except.ok.inj here
      cases layered : style.layers <;>
        simp [body, inPlace?, Record.openAfter, depth, layered]
    | layer name edge =>
      obtain rfl := Except.ok.inj here
      cases layered : style.layers <;> cases edge <;>
        simp [body, inPlace?, Record.openAfter, depth, layered]
    | rule declaration =>
      obtain ⟨block, valid, rfl⟩ := map_eq_ok_iff.1 here
      have kept : (if style.layers then Record.openAfter (depth style before) (.rule declaration)
          else 0) = depth style before := by
        unfold depth
        cases style.layers <;> rfl
      rw [kept]
      cases media : ClassName.present declaration.media <;>
        simp [body, inPlace?, media, valid, Except.toOption]

/-- `Item.ofRecord` keeps comments and marks, and holds a rule back if it has a condition.  The
three views of items below are read off this. -/
lemma ofRecord_cases (made : Item.ofRecord style.format record = .ok item) :
    (∃ text, record = .comment text ∧ item = .comment text) ∨
      (∃ name edge, record = .layer name edge ∧ item = .layer name edge) ∨
      ∃ declaration block, record = .rule declaration ∧
        Item.ruleOf style.format declaration = .ok block ∧
        item = match ClassName.present declaration.media with
          | none => .rule block
          | some condition => .held condition block := by
  cases record with
  | comment text => exact .inl ⟨text, rfl, (Except.ok.inj made).symm⟩
  | layer name edge => exact .inr (.inl ⟨name, edge, rfl, (Except.ok.inj made).symm⟩)
  | rule declaration =>
    obtain ⟨block, valid, rfl⟩ := map_eq_ok_iff.1 made
    exact .inr (.inr ⟨declaration, block, rfl, valid, rfl⟩)

lemma layer?_of_ofRecord (made : Item.ofRecord style.format record = .ok item) :
    item.layer? = record.layer? := by
  rcases ofRecord_cases made with
    ⟨text, rfl, rfl⟩ | ⟨name, edge, rfl, rfl⟩ | ⟨declaration, block, rfl, valid, rfl⟩
  · rfl
  · rfl
  · split <;> rfl

lemma held?_of_ofRecord (made : Item.ofRecord style.format record = .ok item) :
    item.held? = (record.rule? style.format).bind fun found => found.1.map (·, found.2) := by
  rcases ofRecord_cases made with
    ⟨text, rfl, rfl⟩ | ⟨name, edge, rfl, rfl⟩ | ⟨declaration, block, rfl, valid, rfl⟩
  · rfl
  · rfl
  · cases media : ClassName.present declaration.media <;>
      simp [Record.rule?, Item.held?, media, valid, Except.toOption]

lemma held?_fst_of_ofRecord (made : Item.ofRecord style.format record = .ok item) :
    item.held?.map Prod.fst = record.condition? := by
  rcases ofRecord_cases made with
    ⟨text, rfl, rfl⟩ | ⟨name, edge, rfl, rfl⟩ | ⟨declaration, block, rfl, valid, rfl⟩
  · rfl
  · rfl
  · cases media : ClassName.present declaration.media <;>
      simp [Record.condition?, Item.held?, media]

lemma order_eq (h : items style records = .ok written) :
    order style.layers written = preamble style records := by
  have names : (written.filterMap Item.layer?).eraseDups = layerNames records := by
    rw [eraseDups_eq_firstSeen, filterMap_of_mapM (fun _ _ => layer?_of_ofRecord) h, layerNames]
  rw [order, names, preamble]

/-- `hold` for a condition that has its rules already: they get one more, behind the others. -/
lemma hold_known {condition : Text} {block : Rule} {conditions : List Text}
    {rules : Text → List Rule} (once : conditions.Nodup) (known : condition ∈ conditions) :
    hold condition block (conditions.map fun key => (key, rules key)) =
      conditions.map fun key =>
        (key, if condition = key then rules key ++ [block] else rules key) := by
  induction conditions with
  | nil => simp at known
  | cons first conditions ih =>
    obtain ⟨absent, once⟩ := List.nodup_cons.1 once
    rw [List.map_cons, List.map_cons, hold]
    by_cases same : first = condition
    · subst same
      have others : ∀ key ∈ conditions, ¬ first = key := fun key mem same => absent (same ▸ mem)
      simp +contextual [others]
    · rw [if_neg same, if_neg (Ne.symm same), ih once (List.mem_of_ne_of_mem (Ne.symm same) known)]

lemma hold_new {condition : Text} {block : Rule} {conditions : List Text}
    {rules : Text → List Rule} (unknown : condition ∉ conditions) :
    hold condition block (conditions.map fun key => (key, rules key)) =
      (conditions.map fun key => (key, rules key)) ++ [(condition, [block])] := by
  induction conditions with
  | nil => rfl
  | cons first conditions ih =>
    obtain ⟨other, unknown⟩ := not_or.1 (List.mem_cons.not.1 unknown)
    rw [List.map_cons, hold, if_neg (Ne.symm other), ih unknown, List.cons_append]

/-- The fold of `groups`, in closed form: each condition has its own rules, in their order, and
stands where it was seen first.  The induction is from the right, since `hold` adds the last
rule. -/
lemma foldl_hold (held : List (Text × Rule)) :
    held.foldl (fun groups pair => hold pair.1 pair.2 groups) [] =
      (firstSeen (held.map Prod.fst)).map fun condition =>
        (condition, (held.filter (·.1 = condition)).map Prod.snd) := by
  induction held using List.reverseRecOn with
  | nil => rfl
  | append_singleton held pair ih =>
    rw [List.foldl_append, ih, List.map_append, List.map_singleton, firstSeen_concat]
    obtain ⟨condition, block⟩ := pair
    dsimp only [List.foldl_cons, List.foldl_nil]
    split
    · rename_i known
      rw [hold_known (nodup_firstSeen _) (mem_firstSeen.2 known)]
      refine List.map_congr_left fun key _ => ?_
      by_cases same : condition = key <;> simp [same]
    · rename_i unknown
      have none : held.filter (·.1 = condition) = [] :=
        List.filter_eq_nil_iff.2 fun pair mem same =>
          unknown (List.mem_map.2 ⟨pair, mem, of_decide_eq_true same⟩)
      have others : ∀ key ∈ firstSeen (held.map Prod.fst), ¬ condition = key :=
        fun key mem same => unknown (same ▸ mem_firstSeen.1 mem)
      rw [hold_new (mt mem_firstSeen.1 unknown), List.map_append, List.map_singleton]
      congr 1
      · refine List.map_congr_left fun key mem => ?_
        simp [others key mem]
      · simp [none]

lemma groups_eq (h : items style records = .ok written) :
    groups written = (conditions records).map fun condition =>
      (condition, rulesUnder style (some condition) records) := by
  have keys : ((written.filterMap Item.held?).map Prod.fst).eraseDups = conditions records := by
    rw [eraseDups_eq_firstSeen, List.map_filterMap,
      filterMap_of_mapM (fun _ _ => held?_fst_of_ofRecord) h, conditions]
  have rules : ∀ condition, ((written.filterMap Item.held?).filter (·.1 = condition)).map Prod.snd =
      rulesUnder style (some condition) records := by
    intro condition
    rw [filterMap_of_mapM (fun _ _ => held?_of_ofRecord) h, rulesUnder, List.filter_filterMap,
      List.filter_filterMap, List.map_filterMap, List.map_filterMap]
    congr 1
    funext record
    cases record.rule? style.format with
    | none => rfl
    | some found =>
      obtain ⟨media, block⟩ := found
      cases media with
      | none => simp [Option.filter]
      | some other => by_cases same : other = condition <;> simp [same, Option.filter]
  rw [groups, foldl_hold, ← eraseDups_eq_firstSeen]
  simp only [keys, rules]

/-! ## When a style sheet is made -/

lemma ofRecord_eq_error_iff {format : ClassNameFormat} {fault : RenderFault} :
    Item.ofRecord format record = .error fault ↔ ∃ declaration, record = .rule declaration ∧
      Value.validate declaration.property declaration.joined = .error fault := by
  cases record with
  | comment text => simp [Item.ofRecord]
  | layer name edge => simp [Item.ofRecord]
  | rule declaration => simp [Item.ofRecord, Item.ruleOf, map_eq_error_iff]

lemma exists_ofRecord_eq_ok_iff {format : ClassNameFormat} :
    (∃ item, Item.ofRecord format record = .ok item) ↔ ∀ declaration, record = .rule declaration →
      ∃ value, Value.validate declaration.property declaration.joined = .ok value := by
  cases record with
  | comment text => simp [Item.ofRecord]
  | layer name edge => simp [Item.ofRecord]
  | rule declaration => simp [Item.ofRecord, Item.ruleOf, map_eq_ok_iff]

/-- `Item.ofRecord` fails only in `Value.validate`, which is what `Record.Accepted` is about. -/
lemma exists_items_iff : (∃ written, items style records = .ok written) ↔
    Record.Accepted records := by
  simp only [items, exists_mapM_eq_ok_iff, exists_ofRecord_eq_ok_iff, Record.Accepted]
  constructor
  · intro accepted declaration mem
    exact accepted _ mem declaration rfl
  · rintro accepted _ mem declaration rfl
    exact accepted declaration mem

lemma items_eq_error_iff {fault : RenderFault} : items style records = .error fault ↔
    ∃ before declaration after, records = before ++ .rule declaration :: after ∧
      Record.Accepted before ∧
      Value.validate declaration.property declaration.joined = .error fault := by
  rw [items, mapM_eq_error_iff]
  simp only [← exists_mapM_eq_ok_iff, ofRecord_eq_error_iff]
  constructor
  · rintro ⟨before, _, after, split, accepted, declaration, rfl, fails⟩
    exact ⟨before, declaration, after, split, exists_items_iff.1 accepted, fails⟩
  · rintro ⟨before, declaration, after, split, accepted, fails⟩
    exact ⟨before, _, after, split, exists_items_iff.2 accepted, declaration, rfl, fails⟩

/-- `mediaEntry` fails only in `Media.isValid`; where it does not, the groups of `groups_eq` are the
`mediaBlocks`. -/
lemma media_eq_ok_iff (h : items style records = .ok written) {media : List Entry} :
    (groups written).mapM (mediaEntry style.mobileFirst) = .ok media ↔
      ConditionsValid style records ∧ media = mediaBlocks style records := by
  rw [groups_eq h, List.mapM_map, ConditionsValid, mediaBlocks]
  generalize conditions records = all
  induction all generalizing media with
  | nil => exact ⟨fun h => ⟨by simp, (Except.ok.inj h).symm⟩, fun h => congrArg Except.ok h.2.symm⟩
  | cons condition all ih =>
    simp only [List.mapM_cons, bind_eq_ok_iff, ih, List.forall_mem_cons, List.map_cons]
    constructor
    · rintro ⟨first, here, others, ⟨valid, rfl⟩, h⟩
      obtain rfl := Except.ok.inj h
      simp only [Function.comp_apply, mediaEntry] at here
      split at here
      · exact ⟨⟨‹_›, valid⟩, by rw [Except.ok.inj here]⟩
      · simp at here
    · rintro ⟨⟨first, valid⟩, rfl⟩
      exact ⟨_, if_pos first, _, ⟨valid, rfl⟩, rfl⟩

lemma media_eq_error_iff (h : items style records = .ok written) {fault : RenderFault} :
    (groups written).mapM (mediaEntry style.mobileFirst) = .error fault ↔
      ∃ before condition after, conditions records = before ++ condition :: after ∧
        (∀ earlier ∈ before, Media.isValid (Media.oriented style.mobileFirst earlier)) ∧
        ¬ Media.isValid (Media.oriented style.mobileFirst condition) ∧
        fault = .invalidMedia (Media.oriented style.mobileFirst condition) := by
  have refused : ∀ group, mediaEntry style.mobileFirst group = .error fault ↔
      ¬ Media.isValid (Media.oriented style.mobileFirst group.1) ∧
        fault = .invalidMedia (Media.oriented style.mobileFirst group.1) := by
    intro group
    unfold mediaEntry
    by_cases valid : Media.isValid (Media.oriented style.mobileFirst group.1) <;>
      simp [valid, eq_comm]
  have allowed : ∀ group, (∃ entry, mediaEntry style.mobileFirst group = .ok entry) ↔
      Media.isValid (Media.oriented style.mobileFirst group.1) := by
    intro group
    unfold mediaEntry
    by_cases valid : Media.isValid (Media.oriented style.mobileFirst group.1) <;> simp [valid]
  simp only [groups_eq h, List.mapM_map, mapM_eq_error_iff, Function.comp_apply, refused, allowed]

/-- `entries` fails in `items` or in a `mediaEntry`, and otherwise its three pieces are those of the
`plan` (`order_eq`, `body_eq`, `media_eq_ok_iff`). -/
lemma entries_eq_ok_iff {all : List Entry} : entries style records = .ok all ↔
    Record.Accepted records ∧ ConditionsValid style records ∧ all = plan style records := by
  have made : ∀ {written}, items style records = .ok written →
      order style.layers written ++ body style.layers 0 written ++ mediaBlocks style records =
        plan style records := by
    intro written h
    have inside := body_eq [] h
    have start : depth style [] = 0 := by simp [depth]
    rw [start] at inside
    rw [order_eq h, inside, plan]
    simp
  rw [entries, bind_eq_ok_iff]
  constructor
  · rintro ⟨written, h, rest⟩
    obtain ⟨media, grouped, rest⟩ := bind_eq_ok_iff.1 rest
    obtain ⟨valid, rfl⟩ := (media_eq_ok_iff h).1 grouped
    exact ⟨exists_items_iff.1 ⟨written, h⟩, valid, (made h) ▸ (Except.ok.inj rest).symm⟩
  · rintro ⟨accepted, valid, rfl⟩
    obtain ⟨written, h⟩ := exists_items_iff.2 accepted
    refine ⟨written, h, bind_eq_ok_iff.2 ⟨_, (media_eq_ok_iff h).2 ⟨valid, rfl⟩, ?_⟩⟩
    rw [made h]

lemma entries_eq_error_iff {fault : RenderFault} : entries style records = .error fault ↔
    (∃ before declaration after, records = before ++ .rule declaration :: after ∧
      Record.Accepted before ∧
      Value.validate declaration.property declaration.joined = .error fault) ∨
    (Record.Accepted records ∧
      ∃ before condition after, conditions records = before ++ condition :: after ∧
        (∀ earlier ∈ before, Media.isValid (Media.oriented style.mobileFirst earlier)) ∧
        ¬ Media.isValid (Media.oriented style.mobileFirst condition) ∧
        fault = .invalidMedia (Media.oriented style.mobileFirst condition)) := by
  rw [entries, bind_eq_error_iff, items_eq_error_iff, ← @exists_items_iff style]
  refine or_congr_right ?_
  constructor
  · rintro ⟨written, h, rest⟩
    rcases bind_eq_error_iff.1 rest with fails | ⟨media, -, rest⟩
    · exact ⟨⟨written, h⟩, (media_eq_error_iff h).1 fails⟩
    · simp at rest
  · rintro ⟨⟨written, h⟩, invalid⟩
    exact ⟨written, h, bind_eq_error_iff.2 (.inl ((media_eq_error_iff h).2 invalid))⟩

/-- `entries_eq_ok_iff`, rendered. -/
lemma generate_eq_ok_iff {css : Text} : generate style records = .ok css ↔
    Record.Accepted records ∧ ConditionsValid style records ∧
      css = Entry.renderAll style.mode (plan style records) := by
  rw [generate, map_eq_ok_iff]
  simp only [entries_eq_ok_iff]
  constructor
  · rintro ⟨_, ⟨accepted, valid, rfl⟩, rfl⟩
    exact ⟨accepted, valid, rfl⟩
  · rintro ⟨accepted, valid, rfl⟩
    exact ⟨_, ⟨accepted, valid, rfl⟩, rfl⟩

end Sheet

/-! ## No rule is lost or written twice -/

/-- The rules in an entry. -/
def Entry.rules : Entry → List Rule
  | .rule _ block => [block]
  | .media _ rules => rules
  | _ => []

/-- The number of open layers after an entry. -/
def Entry.openAfter (layers : Nat) : Entry → Nat
  | .openLayer _ _ => layers + 1
  | .closeLayer _ => layers - 1
  | _ => layers

namespace Sheet

variable {style : Style} {records before : List Record}

/-- Where values can be written, each declaration has its rule, and `Record.rule?` finds it. -/
lemma mapM_ruleOf {format : ClassNameFormat} (accepted : Record.Accepted records) :
    (records.filterMap Record.declaration?).mapM (Item.ruleOf format) =
      .ok ((records.filterMap (Record.rule? format)).map Prod.snd) := by
  induction records with
  | nil => rfl
  | cons record records ih =>
    have later := ih fun declaration mem => accepted declaration (List.mem_cons_of_mem _ mem)
    cases record with
    | comment text => exact later
    | layer name edge => exact later
    | rule declaration =>
      obtain ⟨value, valid⟩ := accepted declaration List.mem_cons_self
      have made : ∃ block, Item.ruleOf format declaration = .ok block :=
        ⟨_, map_eq_ok_iff.2 ⟨value, valid, rfl⟩⟩
      obtain ⟨block, made⟩ := made
      simp [Record.declaration?, Record.rule?, List.mapM_cons, made, later, Except.toOption, bind,
        Except.bind, pure, Except.pure]

lemma flatMap_rules_along (records : List Record) :
    (along (inPlace? style) records).flatMap Entry.rules = rulesUnder style none records := by
  have own : ∀ before record, (inPlace? style before record).toList.flatMap Entry.rules =
      ((record.rule? style.format).toList.filter (·.1 = none)).map Prod.snd := by
    intro before record
    cases record with
    | comment text => rfl
    | layer name edge =>
      cases edge <;> by_cases kept : style.layers <;>
        simp [inPlace?, kept, Record.rule?, Entry.rules]
    | rule declaration =>
      cases made : Item.ruleOf style.format declaration <;>
        by_cases plain : ClassName.present declaration.media = none <;>
        simp [inPlace?, Record.rule?, Entry.rules, made, plain, Except.toOption]
  rw [flatMap_along own, rulesUnder, List.filterMap_eq_flatMap_toList, List.filter_flatMap,
    List.map_flatMap]

/-- The rules of the `plan` are those of the records, sorted into the rules in place and one group
for each condition (`flatMap_filter_perm`). -/
lemma flatMap_rules_plan (style : Style) (records : List Record) :
    ((plan style records).flatMap Entry.rules).Perm
      ((records.filterMap (Record.rule? style.format)).map Prod.snd) := by
  have first : (preamble style records).flatMap Entry.rules = [] := by
    unfold preamble
    split <;> rfl
  have closed : (closing style records).flatMap Entry.rules = [] := by
    simp [closing, Entry.rules]
  have media : (mediaBlocks style records).flatMap Entry.rules =
      (conditions records).flatMap fun condition => rulesUnder style (some condition) records := by
    simp [mediaBlocks, List.flatMap_map, Entry.rules]
  have sorted : (plan style records).flatMap Entry.rules =
      (((none :: (conditions records).map some).flatMap fun condition =>
        (records.filterMap (Record.rule? style.format)).filter (·.1 = condition)).map
          Prod.snd) := by
    rw [plan, List.flatMap_append, List.flatMap_append, List.flatMap_append, first, closed, media,
      flatMap_rules_along]
    simp [rulesUnder, List.flatMap_map, List.map_flatMap]
  have distinct : (none :: (conditions records).map some).Nodup :=
    List.nodup_cons.2 ⟨by simp, (nodup_firstSeen _).map fun _ _ => Option.some.inj⟩
  rw [sorted]
  refine (flatMap_filter_perm distinct _ fun found mem => ?_).map Prod.snd
  obtain ⟨record, given, made⟩ := List.mem_filterMap.1 mem
  cases record with
  | comment text => simp [Record.rule?] at made
  | layer name edge => simp [Record.rule?] at made
  | rule declaration =>
    obtain ⟨block, -, rfl⟩ := Option.map_eq_some_iff.1 made
    cases media : ClassName.present declaration.media with
    | none => exact List.mem_cons_self
    | some condition =>
      refine List.mem_cons_of_mem _ (List.mem_map_of_mem (mem_firstSeen.2 ?_))
      exact List.mem_filterMap.2 ⟨_, given, media⟩

/-! ## Media blocks stand outside of layers -/

lemma foldl_openAfter_along (before : List Record) :
    (along (fun more => inPlace? style (before ++ more)) records).foldl Entry.openAfter
      (depth style before) = depth style (before ++ records) := by
  induction records generalizing before with
  | nil => simp
  | cons record records ih =>
    have later := ih (before ++ [record])
    simp only [List.append_assoc, List.singleton_append] at later
    have here : (inPlace? style before record).toList.foldl Entry.openAfter (depth style before) =
        depth style (before ++ [record]) := by
      rw [depth_append_singleton]
      cases record with
      | comment text =>
        by_cases kept : style.layers <;>
          simp [inPlace?, kept, Entry.openAfter, Record.openAfter, depth]
      | layer name edge =>
        cases edge <;> by_cases kept : style.layers <;>
          simp [inPlace?, kept, Entry.openAfter, Record.openAfter, depth]
      | rule declaration =>
        cases made : Item.ruleOf style.format declaration <;>
          by_cases plain : ClassName.present declaration.media = none <;>
          by_cases kept : style.layers <;>
          simp [inPlace?, kept, made, plain, Entry.openAfter, Record.openAfter, depth,
            Except.toOption]
    rw [along_cons, List.foldl_append, List.append_nil, here, later]

lemma foldl_openAfter_closers (layers : Nat) :
    ((List.range layers).reverse.map Entry.closeLayer).foldl Entry.openAfter layers = 0 := by
  induction layers with
  | zero => rfl
  | succ layers ih => simpa [List.range_succ, Entry.openAfter] using ih

/-- `closing` has one end for each layer that is still open, so that before the media blocks all
layers have been closed. -/
lemma foldl_openAfter_plan (style : Style) (records : List Record) :
    (preamble style records ++ along (inPlace? style) records ++ closing style records).foldl
      Entry.openAfter 0 = 0 := by
  have first : (preamble style records).foldl Entry.openAfter 0 = depth style [] := by
    unfold preamble depth
    split <;> simp [Entry.openAfter]
  have inside := @foldl_openAfter_along style records []
  rw [List.foldl_append, List.foldl_append, first]
  simp only [List.nil_append] at inside
  rw [inside, closing, foldl_openAfter_closers]

lemma media_not_mem_along {condition : Text} {rules : List Rule} :
    Entry.media condition rules ∉ along (inPlace? style) records := by
  intro mem
  obtain ⟨⟨before, record⟩, -, made⟩ := List.mem_filterMap.1 mem
  cases record with
  | comment text => simp [inPlace?] at made
  | layer name edge => cases edge <;> simp [inPlace?] at made
  | rule declaration => simp [inPlace?] at made

/-- Media blocks stand in the last part of the `plan` only, since `inPlace?` gives nothing for a
rule with a condition. -/
lemma media_not_mem {condition : Text} {rules : List Rule} : Entry.media condition rules ∉
    preamble style records ++ along (inPlace? style) records ++ closing style records := by
  rw [List.mem_append, List.mem_append]
  rintro ((mem | mem) | mem)
  · unfold preamble at mem
    split at mem <;> simp at mem
  · exact media_not_mem_along mem
  · simp [closing] at mem

/-- Every media block stands outside of layers: the entries before it are the first three parts
(`foldl_openAfter_plan`) and other media blocks, which open nothing. -/
lemma foldl_openAfter_of_media {condition : Text} {rules : List Rule} {first rest : List Entry}
    (h : plan style records = first ++ .media condition rules :: rest) :
    first.foldl Entry.openAfter 0 = 0 := by
  have blocks : ∀ {first : List Entry}, first ⊆ mediaBlocks style records →
      first.foldl Entry.openAfter 0 = 0 := by
    intro first sub
    induction first with
    | nil => rfl
    | cons entry first ih =>
      obtain ⟨condition, -, rfl⟩ := List.mem_map.1 (sub List.mem_cons_self)
      exact ih fun other mem => sub (List.mem_cons_of_mem _ mem)
  rw [plan] at h
  rcases List.append_eq_append_iff.1 h with ⟨more, rfl, same⟩ | ⟨more, outside, same⟩
  · rw [List.foldl_append, foldl_openAfter_plan]
    exact blocks fun entry mem => same ▸ List.mem_append_left _ mem
  · cases more with
    | nil =>
      rw [List.append_nil] at outside
      rw [← outside, foldl_openAfter_plan]
    | cons entry more =>
      obtain ⟨rfl, -⟩ := List.cons.inj same
      exact absurd (outside ▸ List.mem_append_right _ List.mem_cons_self) media_not_mem

/-! ## Style sheets without layers -/

/-- The records that neither begin nor end a layer. -/
def withoutLayers (records : List Record) : List Record := records.filter (·.layer?.isNone)

lemma items_withoutLayers (style : Style) (records : List Record) :
    items style (withoutLayers records) =
      (items style records).map (·.filter (·.layer?.isNone)) := by
  induction records with
  | nil => rfl
  | cons record records ih =>
    have plain : ∀ item, Item.ofRecord style.format record = .ok item →
        item.layer? = record.layer? := fun _ => layer?_of_ofRecord
    unfold items withoutLayers at ih ⊢
    cases kept : record.layer? with
    | some name =>
      have made : ∃ item, Item.ofRecord style.format record = .ok item := by
        rw [exists_ofRecord_eq_ok_iff]
        rintro declaration rfl
        simp [Record.layer?] at kept
      obtain ⟨item, made⟩ := made
      have gone := (plain item made).trans kept
      rw [List.filter_cons_of_neg (by simp [kept]), ih, List.mapM_cons, made]
      cases records.mapM (Item.ofRecord style.format) <;>
        simp [bind, Except.bind, pure, Except.pure, Except.map, gone]
    | none =>
      rw [List.filter_cons_of_pos (by simp [kept]), List.mapM_cons, List.mapM_cons, ih]
      cases made : Item.ofRecord style.format record with
      | error fault => rfl
      | ok item =>
        have stays := (plain item made).trans kept
        cases records.mapM (Item.ofRecord style.format) <;>
          simp [bind, Except.bind, pure, Except.pure, Except.map, stays]

lemma body_withoutLayers (depth : Nat) (all : List Item) :
    body false depth (all.filter (·.layer?.isNone)) = body false depth all := by
  induction all with
  | nil => rfl
  | cons item all ih =>
    cases item with
    | layer name edge => cases edge <;> simpa [Item.layer?, body] using ih
    | comment | rule | held => simpa [Item.layer?, body] using ih

lemma groups_withoutLayers (all : List Item) :
    groups (all.filter (·.layer?.isNone)) = groups all := by
  have held : (all.filter (·.layer?.isNone)).filterMap Item.held? = all.filterMap Item.held? := by
    rw [List.filterMap_filter]
    congr 1
    funext item
    cases item <;> rfl
  rw [groups, held, groups]

/-- Where layers are not kept, `order` and `body` skip them, so it is as if there were none. -/
lemma generate_withoutLayers (flat : style.layers = false) :
    generate style records = generate style (withoutLayers records) := by
  rw [generate, generate, entries, entries, items_withoutLayers]
  cases items style records with
  | error fault => rfl
  | ok all =>
    simp only [Except.map, bind, Except.bind, flat, order, body_withoutLayers,
      groups_withoutLayers]
    rfl

/-! ## The style sheet -/

/-- How the style sheet for records is composed. -/
structure Composed (style : Style) (records : List Record) : Prop where
  /-- The first value that cannot be written is refused, and after the values the first media
  condition that cannot be written.  Nothing else is. -/
  refused : ∀ fault, generate style records = .error fault ↔
    (∃ before declaration after, records = before ++ .rule declaration :: after ∧
      Record.Accepted before ∧
      Value.validate declaration.property declaration.joined = .error fault) ∨
    (Record.Accepted records ∧
      ∃ before condition after, conditions records = before ++ condition :: after ∧
        (∀ earlier ∈ before, Media.isValid (Media.oriented style.mobileFirst earlier)) ∧
        ¬ Media.isValid (Media.oriented style.mobileFirst condition) ∧
        fault = .invalidMedia (Media.oriented style.mobileFirst condition))
  /-- Otherwise the text is that of the order of the layers, the records in their places, the ends
  of the layers that are left open, and the media blocks. -/
  written : ∀ css, generate style records = .ok css ↔
    Record.Accepted records ∧ ConditionsValid style records ∧
      css = Text.trim (Text.join style.mode.separator
        ((preamble style records ++ along (inPlace? style) records ++ closing style records ++
          mediaBlocks style records).map (Entry.render style.mode)))
  /-- Every declaration is written exactly once. -/
  once : Record.Accepted records → ∃ rules,
    (records.filterMap Record.declaration?).mapM (Item.ruleOf style.format) = .ok rules ∧
      ((plan style records).flatMap Entry.rules).Perm rules
  /-- Where a media block stands, no layer is open. -/
  outside : ∀ first condition rules rest,
    plan style records = first ++ .media condition rules :: rest →
      first.foldl Entry.openAfter 0 = 0
  /-- Where layers are not kept, it is as if there were none. -/
  flat : style.layers = false → generate style records = generate style (withoutLayers records)

/-- Every style sheet is composed of the four parts of its `plan`. -/
theorem composed (style : Style) (records : List Record) : Composed style records where
  refused fault := by rw [generate, map_eq_error_iff, entries_eq_error_iff]
  written _ := generate_eq_ok_iff
  once accepted := ⟨_, mapM_ruleOf accepted, flatMap_rules_plan style records⟩
  outside _ _ _ _ := foldl_openAfter_of_media
  flat := generate_withoutLayers

/-- The four parts in their order: the layer is still open when the records end, and the rule under
a media width was written first. -/
example : generate ⟨.minimalistic, .standard, true, true⟩
    [.rule ⟨"animation", ["2"], none, some ":hover", some "(min-width: 640px)", by simp⟩,
      .layer "base" .start, .comment "x",
      .rule ⟨"animation", ["1", "spin"], none, none, none, by simp⟩] =
    .ok ("@layer base;\n" ++
      "@layer base " ++ Text.braced ("\n" ++
        "  /* x */\n" ++
        "  .a_1-spin " ++ Text.braced "\n    animation: 1 spin;\n  " ++ "\n") ++ "\n" ++
      "@media (min-width: 640px) " ++ Text.braced ("\n" ++
        "  .a_2_h_m640:hover " ++ Text.braced "\n    animation: 2;\n  " ++ "\n")) := by
  decide +kernel

end Sheet

end UtilityCss
