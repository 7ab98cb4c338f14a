/-
Depth-first search.

A graph is given by the list of successors of every vertex.  `DepthFirst next seen pending order`
says that a depth-first search that has seen `seen` and is to go through the vertices of `pending`
comes upon the new vertices in the `order`: it passes over a vertex that was seen, and behind a new
one it first goes through its successors.

The order is unique (`DepthFirst.unique`), and there is one if only finitely many vertices can be
reached (`exists_depthFirst`).  It has no vertex twice, and from a single vertex it has exactly the
vertices that can be reached from it (`DepthFirst.mem_iff_reachable`).
-/
import Mathlib.Data.Set.Card
import Mathlib.Logic.Relation

namespace SenderPolicy

variable {α : Type} {next : α → List α}

/-- The vertices that can be reached from a vertex, itself included. -/
def reachable (next : α → List α) (start : α) : Set α :=
  {x | Relation.ReflTransGen (fun a b => b ∈ next a) start x}

/-- A set that contains a vertex and the successors of its vertices contains all that can be
reached from the vertex. -/
lemma reachable_subset_of_closed {start : α} {closed : Set α} (hstart : start ∈ closed)
    (hclosed : ∀ x ∈ closed, ∀ y ∈ next x, y ∈ closed) : reachable next start ⊆ closed := by
  intro x hx
  induction hx with
  | refl => exact hstart
  | tail _ hnext ih => exact hclosed _ ih _ hnext

/-- The order in which a depth-first search comes upon new vertices. -/
inductive DepthFirst (next : α → List α) : Set α → List α → List α → Prop where
  /-- Nothing is left to go through. -/
  | nil (seen : Set α) : DepthFirst next seen [] []
  /-- A vertex that was seen is passed over. -/
  | old {seen : Set α} {x : α} {pending order : List α} (hx : x ∈ seen)
      (rest : DepthFirst next seen pending order) : DepthFirst next seen (x :: pending) order
  /-- Behind a new vertex come those that are found through its successors. -/
  | new {seen : Set α} {x : α} {pending inner order : List α} (hx : x ∉ seen)
      (successors : DepthFirst next (insert x seen) (next x) inner)
      (rest : DepthFirst next (insert x seen ∪ {y | y ∈ inner}) pending order) :
      DepthFirst next seen (x :: pending) (x :: (inner ++ order))

namespace DepthFirst

variable {seen : Set α} {pending order : List α}

/-- What a search does with the next vertex. -/
lemma cons_cases {x : α} (h : DepthFirst next seen (x :: pending) order) :
    (x ∈ seen ∧ DepthFirst next seen pending order) ∨
      (x ∉ seen ∧ ∃ inner outer, order = x :: (inner ++ outer) ∧
        DepthFirst next (insert x seen) (next x) inner ∧
        DepthFirst next (insert x seen ∪ {y | y ∈ inner}) pending outer) := by
  cases h with
  | old hx rest => exact Or.inl ⟨hx, rest⟩
  | new hx successors rest => exact Or.inr ⟨hx, _, _, rfl, successors, rest⟩

lemma unique (h : DepthFirst next seen pending order) {order' : List α}
    (h' : DepthFirst next seen pending order') : order' = order := by
  induction h generalizing order' with
  | nil seen =>
      cases h'
      rfl
  | old hx _ ih =>
      cases h' with
      | old _ rest' => exact ih rest'
      | new hx' _ _ => exact absurd hx hx'
  | new hx _ _ ihsuccessors ih =>
      cases h' with
      | old hx' _ => exact absurd hx' hx
      | new _ successors' rest' =>
          obtain rfl := ihsuccessors successors'
          obtain rfl := ih rest'
          rfl

lemma not_mem_seen (h : DepthFirst next seen pending order) : ∀ x ∈ order, x ∉ seen := by
  induction h with
  | nil seen => simp
  | old _ _ ih => exact ih
  | @new seen x pending inner order hx _ _ ihsuccessors ih =>
      intro y hy hseen
      rcases List.mem_cons.1 hy with rfl | hy
      · exact hx hseen
      rcases List.mem_append.1 hy with hy | hy
      · exact ihsuccessors y hy (Set.mem_insert_of_mem x hseen)
      · exact ih y hy (Or.inl (Set.mem_insert_of_mem x hseen))

lemma nodup (h : DepthFirst next seen pending order) : order.Nodup := by
  induction h with
  | nil seen => exact List.nodup_nil
  | old _ _ ih => exact ih
  | @new seen x pending inner order hx successors rest ihsuccessors ih =>
      refine List.nodup_cons.2 ⟨fun hmem => ?_, List.nodup_append.2 ⟨ihsuccessors, ih, ?_⟩⟩
      · rcases List.mem_append.1 hmem with hmem | hmem
        · exact successors.not_mem_seen x hmem (Set.mem_insert x seen)
        · exact rest.not_mem_seen x hmem (Or.inl (Set.mem_insert x seen))
      · rintro y hy _ hz rfl
        exact rest.not_mem_seen y hz (Or.inr hy)

/-- What a search comes upon can be reached from what it is to go through. -/
lemma exists_reachable (h : DepthFirst next seen pending order) :
    ∀ x ∈ order, ∃ p ∈ pending, x ∈ reachable next p := by
  induction h with
  | nil seen => simp
  | @old seen x pending order hx _ ih =>
      intro y hy
      obtain ⟨p, hp, hreach⟩ := ih y hy
      exact ⟨p, List.mem_cons_of_mem x hp, hreach⟩
  | @new seen x pending inner order hx _ _ ihsuccessors ih =>
      intro y hy
      rcases List.mem_cons.1 hy with rfl | hy
      · exact ⟨y, List.mem_cons_self, Relation.ReflTransGen.refl⟩
      rcases List.mem_append.1 hy with hy | hy
      · obtain ⟨p, hp, hreach⟩ := ihsuccessors y hy
        exact ⟨x, List.mem_cons_self, Relation.ReflTransGen.head hp hreach⟩
      · obtain ⟨p, hp, hreach⟩ := ih y hy
        exact ⟨p, List.mem_cons_of_mem x hp, hreach⟩

/-- A search has seen all that it was to go through. -/
lemma mem_of_pending (h : DepthFirst next seen pending order) :
    ∀ x ∈ pending, x ∈ seen ∨ x ∈ order := by
  induction h with
  | nil seen => simp
  | old hx _ ih =>
      intro y hy
      rcases List.mem_cons.1 hy with rfl | hy
      · exact Or.inl hx
      · exact ih y hy
  | @new seen x pending inner order hx _ _ ihsuccessors ih =>
      intro y hy
      rcases List.mem_cons.1 hy with rfl | hy
      · exact Or.inr List.mem_cons_self
      · rcases ih y hy with ((rfl | hseen) | hinner) | horder
        · exact Or.inr List.mem_cons_self
        · exact Or.inl hseen
        · exact Or.inr (List.mem_cons_of_mem x (List.mem_append_left order hinner))
        · exact Or.inr (List.mem_cons_of_mem x (List.mem_append_right inner horder))

/-- A search has seen the successors of all that it comes upon. -/
lemma mem_of_next (h : DepthFirst next seen pending order) :
    ∀ x ∈ order, ∀ y ∈ next x, y ∈ seen ∨ y ∈ order := by
  induction h with
  | nil seen => simp
  | old _ _ ih => exact ih
  | @new seen x pending inner order hx successors _ ihsuccessors ih =>
      -- what is known of the successors of `x` holds of those of the vertices in `inner`, too
      have hinner : ∀ y, y ∈ insert x seen ∨ y ∈ inner → y ∈ seen ∨ y ∈ x :: (inner ++ order) := by
        rintro y ((rfl | hseen) | hy)
        · exact Or.inr List.mem_cons_self
        · exact Or.inl hseen
        · exact Or.inr (List.mem_cons_of_mem x (List.mem_append_left order hy))
      intro y hy z hz
      rcases List.mem_cons.1 hy with rfl | hy
      · exact hinner z (successors.mem_of_pending z hz)
      rcases List.mem_append.1 hy with hy | hy
      · exact hinner z (ihsuccessors y hy z hz)
      · rcases ih y hy z hz with hseen | horder
        · exact hinner z hseen
        · exact Or.inr (List.mem_cons_of_mem x (List.mem_append_right inner horder))

/-- A search from a single vertex comes upon exactly what can be reached from it. -/
lemma mem_iff_reachable {start : α} (h : DepthFirst next ∅ [start] order) (x : α) :
    x ∈ order ↔ x ∈ reachable next start := by
  constructor
  · intro hx
    obtain ⟨p, hp, hreach⟩ := h.exists_reachable x hx
    rw [List.mem_singleton] at hp
    rwa [hp] at hreach
  · intro hx
    induction hx with
    | refl =>
        rcases h.mem_of_pending start List.mem_cons_self with hseen | horder
        · cases hseen
        · exact horder
    | tail _ hnext ih =>
        rcases h.mem_of_next _ ih _ hnext with hseen | horder
        · cases hseen
        · exact horder

end DepthFirst

/-- Within a finite set that contains the successors of its vertices, every search comes to an end.
The induction is on the number of vertices that were not seen. -/
lemma exists_depthFirst_of_closed {closed : Set α} (hfin : closed.Finite)
    (hclosed : ∀ x ∈ closed, ∀ y ∈ next x, y ∈ closed) (seen : Set α) (pending : List α)
    (hpending : ∀ x ∈ pending, x ∈ closed) : ∃ order, DepthFirst next seen pending order := by
  generalize hn : (closed \ seen).ncard = n
  induction n using Nat.strongRecOn generalizing seen pending with
  | ind n ihn =>
      induction pending with
      | nil => exact ⟨[], .nil seen⟩
      | cons x pending ih =>
          have hx : x ∈ closed := hpending x List.mem_cons_self
          have hrest : ∀ y ∈ pending, y ∈ closed := fun y hy =>
            hpending y (List.mem_cons_of_mem x hy)
          by_cases hseen : x ∈ seen
          · obtain ⟨order, horder⟩ := ih hrest
            exact ⟨order, .old hseen horder⟩
          · -- both searches behind `x` start with more vertices seen
            have hlt : ∀ seen' : Set α, insert x seen ⊆ seen' →
                (closed \ seen').ncard < n := by
              intro seen' hsub
              rw [← hn]
              refine Set.ncard_lt_ncard ?_ (hfin.subset Set.sdiff_subset)
              refine ⟨fun y hy => ⟨hy.1, fun hs => hy.2 (hsub (Set.mem_insert_of_mem x hs))⟩, ?_⟩
              intro hsup
              exact (hsup ⟨hx, hseen⟩).2 (hsub (Set.mem_insert x seen))
            obtain ⟨inner, hinner⟩ := ihn _ (hlt _ (Set.Subset.refl _)) (insert x seen) (next x)
              (hclosed x hx) rfl
            obtain ⟨order, horder⟩ := ihn _ (hlt _ Set.subset_union_left)
              (insert x seen ∪ {y | y ∈ inner}) pending hrest rfl
            exact ⟨_, .new hseen hinner horder⟩

/-- A search from a vertex from which only finitely many can be reached comes to an end. -/
lemma exists_depthFirst {start : α} (hfin : (reachable next start).Finite) :
    ∃ order, DepthFirst next ∅ [start] order := by
  refine exists_depthFirst_of_closed hfin (fun x hx y hy => ?_) ∅ [start] (fun x hx => ?_)
  · exact Relation.ReflTransGen.tail hx hy
  · rw [List.mem_singleton] at hx
    rw [hx]
    exact Relation.ReflTransGen.refl

end SenderPolicy
