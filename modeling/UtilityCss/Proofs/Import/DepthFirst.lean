import Mathlib.Data.List.Perm.Basic
import Mathlib.Logic.Relation

/-!
# Depth-first orders

A depth-first traversal of a directed graph is described here without saying how it is carried out.
`DepthFirst next path done todo pre post` says that visiting the vertices of `todo` in order, while
those of `path` are being visited and those of `done` have been left, enters vertices in the order
`pre` and leaves them in the order `post`.  A vertex is left after everything it leads to, and a
vertex that was left already is skipped.

There is no rule for a vertex that is met again while it is being visited.  So a derivation exists
only if no cycle is met, and what the two orders are known for can be read off a derivation: every
vertex that can be reached stands in both exactly once, in `post` it stands behind everything it
leads to, and nothing leads back to itself.
-/

namespace UtilityCss

variable {α : Type*} {next : α → List α} {path done todo pre post : List α} {root a b : α}

/-- Visiting `todo` in order enters vertices in the order `pre` and leaves them in the order `post`;
`path` holds the vertices that are being visited, the innermost first, and `done` those that have
been left, the last one first. -/
inductive DepthFirst (next : α → List α) : (path done todo pre post : List α) → Prop
  | nil {path done : List α} : DepthFirst next path done [] [] []
  | skip {path done todo pre post : List α} {a : α} (left : a ∈ done)
      (rest : DepthFirst next path done todo pre post) :
      DepthFirst next path done (a :: todo) pre post
  | visit {path done todo pre post pre' post' : List α} {a : α}
      (closed : a ∉ path) (fresh : a ∉ done)
      (inner : DepthFirst next (a :: path) done (next a) pre post)
      (rest : DepthFirst next path (a :: (post.reverse ++ done)) todo pre' post') :
      DepthFirst next path done (a :: todo) (a :: (pre ++ pre')) (post ++ a :: post')

/-- One vertex leads to another in a single step. -/
def LeadsTo (next : α → List α) (a b : α) : Prop := b ∈ next a

namespace DepthFirst

/-! ## The two orders hold the same vertices, each once -/

lemma perm (traversal : DepthFirst next path done todo pre post) : pre.Perm post := by
  induction traversal with
  | nil => exact List.Perm.nil
  | skip _ _ ih => exact ih
  | visit _ _ _ _ ihInner ihRest =>
    exact ((ihInner.append ihRest).cons _).trans List.perm_middle.symm

/-- What is left was neither being visited nor left before: `visit` asks for both, and `done` only
grows.  This is what `nodup` needs between an inner visit and the visits after it. -/
lemma fresh_of_mem (traversal : DepthFirst next path done todo pre post) :
    ∀ a ∈ post, a ∉ path ∧ a ∉ done := by
  induction traversal with
  | nil => intro a mem; simp at mem
  | skip _ _ ih => exact ih
  | visit closed fresh _ _ ihInner ihRest =>
    intro a mem
    rcases List.mem_append.1 mem with mem | mem
    · obtain ⟨apart, old⟩ := ihInner a mem
      exact ⟨fun visited => apart (List.mem_cons_of_mem _ visited), old⟩
    · rcases List.mem_cons.1 mem with rfl | mem
      · exact ⟨closed, fresh⟩
      · obtain ⟨apart, old⟩ := ihRest a mem
        exact ⟨apart, fun left => old (List.mem_cons_of_mem _ (List.mem_append_right _ left))⟩

lemma nodup (traversal : DepthFirst next path done todo pre post) : post.Nodup := by
  induction traversal with
  | nil => exact List.nodup_nil
  | skip _ _ ih => exact ih
  | visit _ _ inner rest ihInner ihRest =>
    have later := rest.fresh_of_mem
    refine List.nodup_append.2 ⟨ihInner, List.nodup_cons.2 ⟨?_, ihRest⟩, ?_⟩
    · intro mem
      exact (later _ mem).2 (by simp)
    · rintro x first y second rfl
      rcases List.mem_cons.1 second with rfl | second
      · exact (inner.fresh_of_mem _ first).1 (by simp)
      · exact (later _ second).2 (by simp [first])

/-! ## What a vertex leads to is left before it -/

/-- Everything that was to be visited has been left in the end, because there is no rule that drops
a vertex. -/
lemma left_of_mem_todo (traversal : DepthFirst next path done todo pre post) :
    ∀ a ∈ todo, a ∈ done ∨ a ∈ post := by
  induction traversal with
  | nil => intro a mem; simp at mem
  | skip left _ ih =>
    intro a mem
    rcases List.mem_cons.1 mem with rfl | mem
    · exact .inl left
    · exact ih a mem
  | visit _ _ _ _ _ ihRest =>
    intro a mem
    rcases List.mem_cons.1 mem with rfl | mem
    · exact .inr (by simp)
    · rcases ihRest a mem with old | new
      · simp only [List.mem_cons, List.mem_append, List.mem_reverse] at old ⊢
        tauto
      · exact .inr (by simp [new])

lemma left_before (traversal : DepthFirst next path done todo pre post) :
    ∀ before after : List α, ∀ a, post = before ++ a :: after →
      ∀ b ∈ next a, b ∈ done ∨ b ∈ before := by
  induction traversal with
  | nil => intro before after a parts; simp at parts
  | skip _ _ ih => exact ih
  | visit _ _ inner _ ihInner ihRest =>
    intro before after a parts b leads
    -- the vertex stands inside the visit, is the visited one itself, or comes later
    rcases List.append_eq_append_iff.1 parts with ⟨gap, rfl, rest⟩ | ⟨gap, inside, rest⟩
    · rcases List.cons_eq_append_iff.1 rest with ⟨rfl, same⟩ | ⟨gap', rfl, later⟩
      · obtain ⟨rfl, -⟩ := List.cons.inj same
        rcases inner.left_of_mem_todo b leads with old | new
        · exact .inl old
        · exact .inr (by simp [new])
      · rcases ihRest gap' after a later b leads with old | earlier
        · simp only [List.mem_cons, List.mem_append, List.mem_reverse] at old ⊢
          tauto
        · exact .inr (by simp [earlier])
    · rcases List.cons_eq_append_iff.1 rest with ⟨rfl, same⟩ | ⟨gap', rfl, -⟩
      · obtain ⟨rfl, -⟩ := List.cons.inj same
        rcases inner.left_of_mem_todo b leads with old | new
        · exact .inl old
        · exact .inr (by simpa [inside] using new)
      · exact ihInner before gap' a inside b leads

/-! ## What is visited can be reached -/

lemma reachable (traversal : DepthFirst next path done todo pre post) :
    ∀ a ∈ post, ∃ b ∈ todo, Relation.ReflTransGen (LeadsTo next) b a := by
  induction traversal with
  | nil => intro a mem; simp at mem
  | skip _ _ ih =>
    intro a mem
    obtain ⟨b, listed, reached⟩ := ih a mem
    exact ⟨b, List.mem_cons_of_mem _ listed, reached⟩
  | @visit _ _ _ _ _ _ _ c _ _ _ _ ihInner ihRest =>
    intro a mem
    rcases List.mem_append.1 mem with mem | mem
    · obtain ⟨b, leads, reached⟩ := ihInner a mem
      exact ⟨c, by simp, Relation.ReflTransGen.head leads reached⟩
    · rcases List.mem_cons.1 mem with rfl | mem
      · exact ⟨a, by simp, Relation.ReflTransGen.refl⟩
      · obtain ⟨b, listed, reached⟩ := ihRest a mem
        exact ⟨b, List.mem_cons_of_mem _ listed, reached⟩

/-! ## Traversals from one vertex -/

/-- The first vertex is entered first and left last, since `visit` puts it around the inner
visit. -/
lemma ends (traversal : DepthFirst next [] [] [root] pre post) :
    pre.head? = some root ∧ post.getLast? = some root := by
  cases traversal with
  | skip left _ => simp at left
  | visit _ _ _ rest => cases rest; simp

/-- `reachable` in one direction.  In the other, `left_before` follows a path from the first vertex
step by step. -/
lemma mem_post_iff (traversal : DepthFirst next [] [] [root] pre post) :
    a ∈ post ↔ Relation.ReflTransGen (LeadsTo next) root a := by
  constructor
  · intro mem
    obtain ⟨b, listed, reached⟩ := traversal.reachable a mem
    obtain rfl := List.mem_singleton.1 listed
    exact reached
  · intro reached
    induction reached with
    | refl => simpa using traversal.left_of_mem_todo root (by simp)
    | tail _ step ih =>
      obtain ⟨before, after, parts⟩ := List.append_of_mem ih
      rcases traversal.left_before before after _ parts _ step with old | earlier
      · simp at old
      · rw [parts]
        exact List.mem_append_left _ earlier

/-- `left_before` along a path: whatever a vertex leads to, in one step or more, is left before
it. -/
lemma transGen_before (traversal : DepthFirst next [] [] [root] pre post) {before after : List α}
    (parts : post = before ++ a :: after) (chain : Relation.TransGen (LeadsTo next) a b) :
    b ∈ before := by
  induction chain with
  | single step => simpa using traversal.left_before before after a parts _ step
  | tail _ step ih =>
    obtain ⟨first, second, rfl⟩ := List.append_of_mem ih
    have earlier := traversal.left_before first (second ++ a :: after) _ (by simp [parts]) _ step
    simp only [List.not_mem_nil, false_or] at earlier
    exact List.mem_append_left _ earlier

/-- Nothing that can be reached leads back to itself, since by `transGen_before` it would have to
stand before itself in `post`, which has no repetitions (`nodup`). -/
lemma acyclic (traversal : DepthFirst next [] [] [root] pre post)
    (reached : Relation.ReflTransGen (LeadsTo next) root a) :
    ¬ Relation.TransGen (LeadsTo next) a a := by
  intro cycle
  obtain ⟨before, after, parts⟩ := List.append_of_mem (traversal.mem_post_iff.2 reached)
  have earlier : a ∈ before := traversal.transGen_before parts cycle
  have once : (before ++ a :: after).Nodup := parts ▸ traversal.nodup
  exact (List.nodup_append.1 once).2.2 a earlier a (by simp) rfl

end DepthFirst

end UtilityCss
