import HtmlToHaml.Proofs.Forest.Links
import Mathlib.Data.List.Nodup

/-!
# Edits of a forest

An edit of the links either puts a node between two places of a ring or takes one out of it. The two
main statements say what either does to the lists of children: the node comes in between or is gone,
every other list stays, and the links are consistent again. Every operation of the store is one of
the two, or a row of them.
-/

namespace HtmlToHaml.DocTree.Store

/-- Whether a place of some ring is a given place on the ring of a given parent. -/
def IsPlace (parent : NodeId) (place : Link) (other : NodeId) (l : Link) : Prop :=
  l = place ∧ (l = none → other = parent)

instance (parent : NodeId) (place : Link) (other : NodeId) (l : Link) :
    Decidable (IsPlace parent place other l) :=
  inferInstanceAs (Decidable (_ ∧ _))

/-- The parent of a ring is a place of its own ring only. -/
@[simp] theorem isPlace_none {parent other : NodeId} {place : Link} :
    IsPlace parent place other none ↔ place = none ∧ other = parent := by
  simp [IsPlace, eq_comm]

/-- A child is a place of one ring whichever parent is asked for. -/
@[simp] theorem isPlace_some {parent other id : NodeId} {place : Link} :
    IsPlace parent place other (some id) ↔ place = some id := by
  simp [IsPlace, eq_comm]

/-- The second store is the first one with a node put between two places of a ring. -/
structure Inserted (store store' : Store) (parent child : NodeId) (a b : Link) : Prop where
  /-- The node has the parent of the ring. -/
  parent? : ∀ id, store'.parent? id = if id = child then some parent else store.parent? id
  /-- The node follows the place before it. -/
  forward : ∀ other l, store'.forward other l =
    if l = some child then b
    else if IsPlace parent a other l then some child else store.forward other l
  /-- The node precedes the place after it. -/
  backward : ∀ other l, store'.backward other l =
    if l = some child then a
    else if IsPlace parent b other l then some child else store.backward other l

/-- The second store is the first one with a node taken out between two places of a ring. -/
structure Removed (store store' : Store) (parent child : NodeId) (a b : Link) : Prop where
  /-- The node has no parent. -/
  parent? : ∀ id, store'.parent? id = if id = child then none else store.parent? id
  /-- The places on its sides follow each other. -/
  forward : ∀ other l, store'.forward other l =
    if l = some child then none
    else if IsPlace parent a other l then b else store.forward other l
  /-- The places on its sides precede each other. -/
  backward : ∀ other l, store'.backward other l =
    if l = some child then none
    else if IsPlace parent b other l then a else store.backward other l

/-- The second store has the links of the first one at all places but those of a node and those on
its sides. -/
structure Relinked (store store' : Store) (parent child : NodeId) (a b : Link) : Prop where
  /-- What follows any other place than the node and the one before it stays. -/
  forward : ∀ {other l}, l ≠ some child → ¬ IsPlace parent a other l →
    store'.forward other l = store.forward other l
  /-- What precedes any other place than the node and the one after it stays. -/
  backward : ∀ {other l}, l ≠ some child → ¬ IsPlace parent b other l →
    store'.backward other l = store.backward other l

/-- Children with one list changed. -/
def withKids (kids : NodeId → List NodeId) (parent : NodeId) (children : List NodeId) :
    NodeId → List NodeId :=
  Function.update kids parent children

section Kids

variable {kids : NodeId → List NodeId} {parent other id : NodeId} {children : List NodeId}

/-- The changed list is the new one. -/
@[simp] theorem withKids_self : withKids kids parent children parent = children :=
  Function.update_self ..

/-- Every other list stays. -/
theorem withKids_of_ne (ho : other ≠ parent) : withKids kids parent children other = kids other :=
  Function.update_of_ne ho ..

/-- Changing a list to what it is changes nothing. -/
@[simp] theorem withKids_eq_self : withKids kids parent (kids parent) = kids :=
  Function.update_eq_self ..

/-- The last of two changes of one list counts. -/
@[simp] theorem withKids_withKids {first : List NodeId} :
    withKids (withKids kids parent first) parent children = withKids kids parent children :=
  Function.update_idem ..

/-- The lists stay free of repetitions when a list without repetitions replaces one of them. -/
theorem nodup_withKids (hd : ∀ other, (kids other).Nodup) (hc : children.Nodup) (other : NodeId) :
    (withKids kids parent children other).Nodup := by
  by_cases ho : other = parent
  · subst ho
    rwa [withKids_self]
  · rw [withKids_of_ne ho]
    exact hd other

/-- A node of which the changed list says what it said before is listed where it was. -/
theorem mem_withKids_iff (he : id ∈ children ↔ id ∈ kids parent) :
    id ∈ withKids kids parent children other ↔ id ∈ kids other := by
  by_cases ho : other = parent
  · subst ho
    rwa [withKids_self]
  · rw [withKids_of_ne ho]

/-- A list that loses nodes lists no new ones. -/
theorem mem_of_mem_withKids (hs : children ⊆ kids parent)
    (hm : id ∈ withKids kids parent children other) : id ∈ kids other := by
  by_cases ho : other = parent
  · subst ho
    rw [withKids_self] at hm
    exact hs hm
  · rwa [withKids_of_ne ho] at hm

end Kids

section Cuts

variable {α : Type} {l r before after : List α} {x : α}

/-- A cut of a list with an element in the middle is at that element or a cut of the list without
it, with the same elements on both sides. -/
theorem cut_cases (h : l ++ x :: r = before ++ after) :
    (before = l ∧ after = x :: r) ∨ (before = l ++ [x] ∧ after = r) ∨
      ∃ before' after', l ++ r = before' ++ after' ∧ before' ≠ l ∧
        before'.getLast? = before.getLast? ∧ after'.head? = after.head? := by
  rcases List.append_eq_append_iff.1 h with ⟨mid, rfl, ha⟩ | ⟨mid, rfl, rfl⟩
  · cases mid with
    | nil => exact Or.inl ⟨List.append_nil l, ha.symm⟩
    | cons y mid =>
      rw [List.cons_append, List.cons.injEq] at ha
      obtain ⟨rfl, rfl⟩ := ha
      rcases List.eq_nil_or_concat mid with rfl | ⟨mid, z, rfl⟩
      · exact Or.inr (Or.inl ⟨rfl, rfl⟩)
      · refine Or.inr (Or.inr ⟨l ++ mid ++ [z], after, ?_, ?_, ?_, rfl⟩)
        · simp
        · simp
        · rw [List.getLast?_concat, List.concat_eq_append, ← List.cons_append, ← List.append_assoc,
            List.getLast?_concat]
  · cases mid with
    | nil => exact Or.inl ⟨(List.append_nil before).symm, rfl⟩
    | cons y mid =>
      refine Or.inr (Or.inr ⟨before, y :: mid ++ r, ?_, ?_, rfl, rfl⟩)
      · simp
      · simp

/-- A cut of a list is also a cut with one more element elsewhere, with the same elements on both
sides. -/
theorem exists_cut_of_ne (h : l ++ r = before ++ after) (hne : before ≠ l) :
    ∃ before' after', l ++ x :: r = before' ++ after' ∧
      before'.getLast? = before.getLast? ∧ after'.head? = after.head? := by
  rcases List.append_eq_append_iff.1 h with ⟨mid, rfl, rfl⟩ | ⟨mid, rfl, rfl⟩
  · rcases List.eq_nil_or_concat mid with rfl | ⟨mid, z, rfl⟩
    · exact absurd (List.append_nil l) hne
    · refine ⟨l ++ x :: mid ++ [z], after, ?_, ?_, rfl⟩
      · simp
      · rw [List.getLast?_concat, List.concat_eq_append, ← List.append_assoc, List.getLast?_concat]
  · cases mid with
    | nil => exact absurd (List.append_nil before).symm hne
    | cons y mid => exact ⟨before, y :: mid ++ x :: r, by simp, rfl, rfl⟩

/-- The end of a front part is not the end of the whole list, if something follows. -/
theorem getLast?_ne_of_nodup {mid : List α} (h : (before ++ mid).Nodup) (hm : mid ≠ []) :
    before.getLast? ≠ (before ++ mid).getLast? := by
  intro he
  rw [List.getLast?_append_of_ne_nil _ hm] at he
  cases hb : before.getLast? with
  | none => exact hm (List.getLast?_eq_none_iff.1 (he.symm.trans hb))
  | some y =>
    exact (List.nodup_append.1 h).2.2 y (List.mem_of_getLast? hb) y
      (List.mem_of_getLast? (he.symm.trans hb)) rfl

/-- A cut of a list without repetitions is known by the element in front of it. -/
theorem cut_eq_of_getLast? (hd : (l ++ r).Nodup) (h : l ++ r = before ++ after)
    (he : before.getLast? = l.getLast?) : before = l := by
  rcases List.append_eq_append_iff.1 h with ⟨mid, rfl, rfl⟩ | ⟨mid, rfl, rfl⟩
  · by_contra hm
    have hd' : (l ++ mid).Nodup := hd.sublist (by simp [← List.append_assoc])
    exact getLast?_ne_of_nodup hd' (by simpa using hm) he.symm
  · by_contra hm
    have hd' : (before ++ mid).Nodup := hd.sublist (by simp)
    exact getLast?_ne_of_nodup hd' (by simpa using hm) he

/-- A cut of a list without repetitions is known by the element behind it. -/
theorem cut_eq_of_head? (hd : (l ++ r).Nodup) (h : l ++ r = before ++ after)
    (he : after.head? = r.head?) : before = l := by
  have hd' : (r.reverse ++ l.reverse).Nodup := by
    rw [← List.reverse_append]
    exact List.nodup_reverse.2 hd
  have ha : after.reverse = r.reverse := by
    have hcut : r.reverse ++ l.reverse = after.reverse ++ before.reverse := by
      rw [← List.reverse_append, ← List.reverse_append, h]
    exact cut_eq_of_getLast? hd' hcut (by simpa using he)
  rw [List.reverse_injective ha] at h
  exact (List.append_cancel_right h).symm

end Cuts

variable {store store' : Store} {kids : NodeId → List NodeId} {parent child : NodeId}

/-- Putting a node between two places changes the links there only. -/
theorem Inserted.relinked {a b : Link} (hi : Inserted store store' parent child a b) :
    Relinked store store' parent child a b where
  forward hl ha := by rw [hi.forward, if_neg hl, if_neg ha]
  backward hl hb := by rw [hi.backward, if_neg hl, if_neg hb]

/-- Taking a node out between two places changes the links there only. -/
theorem Removed.relinked {a b : Link} (hx : Removed store store' parent child a b) :
    Relinked store store' parent child a b where
  forward hl ha := by rw [hx.forward, if_neg hl, if_neg ha]
  backward hl hb := by rw [hx.backward, if_neg hl, if_neg hb]

/-- Away from the places of an edit, joined places stay joined. -/
theorem Relinked.joined {a b p q : Link} {other : NodeId}
    (he : Relinked store store' parent child a b) (hp : p ≠ some child) (hq : q ≠ some child)
    (ha : ¬ IsPlace parent a other p) (hb : ¬ IsPlace parent b other q)
    (hj : store.Joined other p q) : store'.Joined other p q :=
  ⟨(he.forward hp ha).trans hj.1, (he.backward hq hb).trans hj.2⟩

/-- On the ring itself, being a place is being the same place. -/
theorem isPlace_self {p a : Link} : IsPlace parent a parent p ↔ p = a :=
  ⟨And.left, fun h => ⟨h, fun _ => rfl⟩⟩

/-- The ends of a cut of a list are not a node that the list does not hold. -/
theorem cut_ne_some {l before after : List NodeId} (h : l = before ++ after) (hc : child ∉ l) :
    before.getLast? ≠ some child ∧ after.head? ≠ some child := by
  subst h
  exact ⟨fun he => hc (List.mem_append_left _ (List.mem_of_getLast? he)),
    fun he => hc (List.mem_append_right _ (List.mem_of_head? he))⟩

/-- The ring that a node is put into runs through it. -/
theorem Inserted.ring_self {l r : List NodeId}
    (hi : Inserted store store' parent child l.getLast? r.head?)
    (hr : store.Ring parent (l ++ r)) (hd : (l ++ r).Nodup) (hc : child ∉ l ++ r) :
    store'.Ring parent (l ++ child :: r) := by
  have hends := cut_ne_some rfl hc
  intro before after h
  rcases cut_cases h with ⟨rfl, rfl⟩ | ⟨rfl, rfl⟩ | ⟨before', after', hcut, hne, hb, ha⟩
  · constructor
    · rw [hi.forward, if_neg hends.1, if_pos (isPlace_self.2 rfl), List.head?_cons]
    · rw [List.head?_cons, hi.backward, if_pos rfl]
  · constructor
    · rw [List.getLast?_concat, hi.forward, if_pos rfl]
    · rw [hi.backward, if_neg hends.2, if_pos (isPlace_self.2 rfl), List.getLast?_concat]
  · rw [← hb, ← ha]
    have hout := cut_ne_some hcut hc
    exact hi.relinked.joined hout.1 hout.2
      (fun he => hne (cut_eq_of_getLast? hd hcut (isPlace_self.1 he)))
      (fun he => hne (cut_eq_of_head? hd hcut (isPlace_self.1 he))) (hr _ _ hcut)

/-- The ring that a node is taken out of closes over it. -/
theorem Removed.ring_self {l r : List NodeId}
    (hx : Removed store store' parent child l.getLast? r.head?)
    (hr : store.Ring parent (l ++ child :: r)) (hd : (l ++ child :: r).Nodup) :
    store'.Ring parent (l ++ r) := by
  have hd' : (l ++ r).Nodup := hd.sublist (by simp)
  have hc : child ∉ l ++ r := by
    rw [List.nodup_middle, List.nodup_cons] at hd
    exact hd.1
  intro before after h
  have hout := cut_ne_some h hc
  by_cases hb : before = l
  · subst hb
    obtain rfl := List.append_cancel_left h
    constructor
    · rw [hx.forward, if_neg hout.1, if_pos (isPlace_self.2 rfl)]
    · rw [hx.backward, if_neg hout.2, if_pos (isPlace_self.2 rfl)]
  · obtain ⟨before', after', hcut, he, ha⟩ := exists_cut_of_ne (x := child) h hb
    refine hx.relinked.joined hout.1 hout.2
      (fun hp => hb (cut_eq_of_getLast? hd' h (isPlace_self.1 hp)))
      (fun hp => hb (cut_eq_of_head? hd' h (isPlace_self.1 hp))) ?_
    rw [← he, ← ha]
    exact hr _ _ hcut

/-- On the ring of another parent there is no place of a given one. -/
theorem not_isPlace_of_ne {l before : List NodeId} {a : Link} {other : NodeId}
    (hne : other ≠ parent) (ha : ∀ id, a = some id → id ∉ l) (hb : ∀ id ∈ before, id ∈ l) :
    ¬ IsPlace parent a other before.getLast? ∧ ¬ IsPlace parent a other before.head? := by
  constructor
  · rintro ⟨he, hn⟩
    cases hl : before.getLast? with
    | none => exact hne (hn hl)
    | some id => exact ha id (he.symm.trans hl) (hb id (List.mem_of_getLast? hl))
  · rintro ⟨he, hn⟩
    cases hl : before.head? with
    | none => exact hne (hn hl)
    | some id => exact ha id (he.symm.trans hl) (hb id (List.mem_of_head? hl))

/-- The rings of other parents are not touched by an edit. -/
theorem Relinked.ring_of_ne {a b : Link} {other : NodeId} {l : List NodeId}
    (he : Relinked store store' parent child a b) (hr : store.Ring other l) (hne : other ≠ parent)
    (hc : child ∉ l) (ha : ∀ id, a = some id → id ∉ l) (hb : ∀ id, b = some id → id ∉ l) :
    store'.Ring other l := by
  intro before after h
  have hout := cut_ne_some h hc
  have hbefore : ∀ id ∈ before, id ∈ l := fun id hm => h ▸ List.mem_append_left _ hm
  have hafter : ∀ id ∈ after, id ∈ l := fun id hm => h ▸ List.mem_append_right _ hm
  exact he.joined hout.1 hout.2 (not_isPlace_of_ne hne ha hbefore).1
    (not_isPlace_of_ne hne hb hafter).2 (hr _ _ h)

/-- A node that is neither the one of an edit nor on its ring keeps the siblings it has. -/
theorem Relinked.siblings_of_not_mem {l r : List NodeId} {id : NodeId}
    (he : Relinked store store' parent child l.getLast? r.head?) (hid : id ≠ child)
    (hm : id ∉ l ++ r) : store'.prevSibling? id = store.prevSibling? id ∧
      store'.nextSibling? id = store.nextSibling? id := by
  have hid' : some id ≠ some child := fun hs => hid (Option.some.inj hs)
  have hends := cut_ne_some rfl hm
  have hf : store'.forward parent (some id) = store.forward parent (some id) :=
    he.forward hid' fun hp => hends.1 (isPlace_self.1 hp).symm
  have hb : store'.backward parent (some id) = store.backward parent (some id) :=
    he.backward hid' fun hp => hends.2 (isPlace_self.1 hp).symm
  exact ⟨hb, hf⟩

/-- A child of one parent is not listed for another one. -/
theorem Links.not_mem_of_ne (h : store.Links kids) {other id : NodeId} (hm : id ∈ kids parent)
    (ho : other ≠ parent) : id ∉ kids other :=
  fun hm' => ho (h.parent_unique hm' hm)

/-- A relation without endless descent keeps none when a pair is added that closes no circle. -/
theorem wellFounded_or_pair {α : Type} {r : α → α → Prop} {a b : α} (hr : WellFounded r)
    (hn : ¬ Relation.ReflTransGen r b a) : WellFounded fun x y => r x y ∨ (x = a ∧ y = b) := by
  -- below `a` the new pair is never used, because `b` is not there
  have hbelow : ∀ x, Relation.ReflTransGen r x a → Acc (fun x y => r x y ∨ (x = a ∧ y = b)) x := by
    intro x
    induction x using hr.induction with
    | _ x ih =>
      intro hx
      apply Acc.intro
      rintro y (hy | ⟨rfl, rfl⟩)
      · exact ih y hy (Relation.ReflTransGen.head hy hx)
      · exact absurd hx hn
  refine ⟨fun x => ?_⟩
  induction x using hr.induction with
  | _ x ih =>
    apply Acc.intro
    rintro y (hy | ⟨rfl, rfl⟩)
    · exact ih y hy
    · exact hbelow y Relation.ReflTransGen.refl

section Insertion

variable {l r : List NodeId}

/-- The ring that a node is put into runs through it, and every other ring stays. -/
theorem Inserted.ring (hi : Inserted store store' parent child l.getLast? r.head?)
    (h : store.Links kids) (hk : kids parent = l ++ r) (hc : store.parent? child = none)
    (other : NodeId) : store'.Ring other (withKids kids parent (l ++ child :: r) other) := by
  have hnot := h.not_mem_of_parent?_eq_none hc
  by_cases ho : other = parent
  · subst ho
    rw [withKids_self]
    exact hi.ring_self (hk ▸ h.ring other) (hk ▸ h.nodup other) (hk ▸ hnot other)
  · rw [withKids_of_ne ho]
    have hbefore : ∀ id, l.getLast? = some id → id ∈ kids parent := fun id he =>
      hk ▸ List.mem_append_left _ (List.mem_of_getLast? he)
    have hafter : ∀ id, r.head? = some id → id ∈ kids parent := fun id he =>
      hk ▸ List.mem_append_right _ (List.mem_of_head? he)
    exact hi.relinked.ring_of_ne (h.ring other) ho (hnot other)
      (fun id he => h.not_mem_of_ne (hbefore id he) ho)
      (fun id he => h.not_mem_of_ne (hafter id he) ho)

/-- After an insertion the nodes know whose children they are. -/
theorem Inserted.mem_iff_parent? (hi : Inserted store store' parent child l.getLast? r.head?)
    (h : store.Links kids) (hk : kids parent = l ++ r) (hc : store.parent? child = none)
    {other id : NodeId} :
    id ∈ withKids kids parent (l ++ child :: r) other ↔ store'.parent? id = some other := by
  rw [hi.parent?]
  by_cases hid : id = child
  · subst hid
    rw [if_pos rfl, Option.some.injEq]
    by_cases ho : other = parent
    · subst ho
      simp
    · rw [withKids_of_ne ho]
      exact iff_of_false (h.not_mem_of_parent?_eq_none hc other) (Ne.symm ho)
  · rw [if_neg hid, ← h.parent]
    exact mem_withKids_iff (by simp [hk, hid])

/-- After an insertion a node without a parent has no siblings. -/
theorem Inserted.loose {id : NodeId} (hi : Inserted store store' parent child l.getLast? r.head?)
    (h : store.Links kids) (hk : kids parent = l ++ r) (hp : store'.parent? id = none) :
    store'.prevSibling? id = none ∧ store'.nextSibling? id = none := by
  rw [hi.parent?] at hp
  have hid : id ≠ child := by
    rintro rfl
    rw [if_pos rfl] at hp
    cases hp
  rw [if_neg hid] at hp
  have hsame := hi.relinked.siblings_of_not_mem hid (hk ▸ h.not_mem_of_parent?_eq_none hp parent)
  rw [hsame.1, hsame.2]
  exact h.loose hp

/-- A node that the parent is not below closes no circle when it is put there. -/
theorem Links.grounded_insert (h : store.Links kids) (hk : kids parent = l ++ r)
    (hn : ¬ Relation.ReflTransGen (fun child parent => child ∈ kids parent) parent child) :
    WellFounded fun id other => id ∈ withKids kids parent (l ++ child :: r) other := by
  refine Subrelation.wf (fun {id other} hm => ?_) (wellFounded_or_pair h.grounded hn)
  by_cases ho : other = parent
  · subst ho
    rw [withKids_self, List.mem_append, List.mem_cons] at hm
    rw [hk, List.mem_append]
    tauto
  · rw [withKids_of_ne ho] at hm
    exact Or.inl hm

/-- **A node put between two children stands there, and every other list stays.** -/
theorem Links.insert (h : store.Links kids) (hk : kids parent = l ++ r)
    (hc : store.parent? child = none)
    (hn : ¬ Relation.ReflTransGen (fun child parent => child ∈ kids parent) parent child)
    (hi : Inserted store store' parent child l.getLast? r.head?) :
    store'.Links (withKids kids parent (l ++ child :: r)) where
  ring := hi.ring h hk hc
  nodup := by
    refine nodup_withKids h.nodup ?_
    rw [List.nodup_middle, List.nodup_cons, ← hk]
    exact ⟨h.not_mem_of_parent?_eq_none hc parent, h.nodup parent⟩
  parent := hi.mem_iff_parent? h hk hc
  loose := hi.loose h hk
  grounded := h.grounded_insert hk hn

end Insertion

section Removal

variable {l r : List NodeId}

/-- The list that a child is taken out of does not have it twice. -/
theorem Links.not_mem_rest (h : store.Links kids) (hk : kids parent = l ++ child :: r) :
    child ∉ l ++ r := by
  have hd : (l ++ child :: r).Nodup := hk ▸ h.nodup parent
  rw [List.nodup_middle, List.nodup_cons] at hd
  exact hd.1

/-- What is left of a list of children was in it. -/
theorem rest_subset (hk : kids parent = l ++ child :: r) : l ++ r ⊆ kids parent := by
  intro id hm
  rw [hk, List.mem_append, List.mem_cons]
  exact (List.mem_append.1 hm).imp_right Or.inr

/-- The ring that a node is taken out of closes over it, and every other ring stays. -/
theorem Removed.ring (hx : Removed store store' parent child l.getLast? r.head?)
    (h : store.Links kids) (hk : kids parent = l ++ child :: r) (other : NodeId) :
    store'.Ring other (withKids kids parent (l ++ r) other) := by
  by_cases ho : other = parent
  · subst ho
    rw [withKids_self]
    exact hx.ring_self (hk ▸ h.ring other) (hk ▸ h.nodup other)
  · rw [withKids_of_ne ho]
    have hchild : child ∈ kids parent := by simp [hk]
    have hbefore : ∀ id, l.getLast? = some id → id ∈ kids parent := fun id he =>
      rest_subset hk (List.mem_append_left _ (List.mem_of_getLast? he))
    have hafter : ∀ id, r.head? = some id → id ∈ kids parent := fun id he =>
      rest_subset hk (List.mem_append_right _ (List.mem_of_head? he))
    exact hx.relinked.ring_of_ne (h.ring other) ho (h.not_mem_of_ne hchild ho)
      (fun id he => h.not_mem_of_ne (hbefore id he) ho)
      (fun id he => h.not_mem_of_ne (hafter id he) ho)

/-- After a removal the nodes know whose children they are. -/
theorem Removed.mem_iff_parent? (hx : Removed store store' parent child l.getLast? r.head?)
    (h : store.Links kids) (hk : kids parent = l ++ child :: r) {other id : NodeId} :
    id ∈ withKids kids parent (l ++ r) other ↔ store'.parent? id = some other := by
  rw [hx.parent?]
  by_cases hid : id = child
  · subst hid
    refine iff_of_false ?_ (by simp)
    by_cases ho : other = parent
    · subst ho
      rw [withKids_self]
      exact h.not_mem_rest hk
    · rw [withKids_of_ne ho]
      exact h.not_mem_of_ne (by simp [hk]) ho
  · rw [if_neg hid, ← h.parent]
    exact mem_withKids_iff (by simp [hk, hid])

/-- The node that is taken out has no siblings. -/
theorem Removed.siblings_self {a b : Link} (hx : Removed store store' parent child a b) :
    store'.prevSibling? child = none ∧ store'.nextSibling? child = none := by
  have hf := hx.forward parent (some child)
  have hb := hx.backward parent (some child)
  rw [if_pos rfl] at hf hb
  exact ⟨hb, hf⟩

/-- After a removal a node without a parent has no siblings. -/
theorem Removed.loose {id : NodeId} (hx : Removed store store' parent child l.getLast? r.head?)
    (h : store.Links kids) (hk : kids parent = l ++ child :: r) (hp : store'.parent? id = none) :
    store'.prevSibling? id = none ∧ store'.nextSibling? id = none := by
  by_cases hid : id = child
  · subst hid
    exact hx.siblings_self
  · rw [hx.parent?, if_neg hid] at hp
    have hout : id ∉ l ++ r := fun hm =>
      h.not_mem_of_parent?_eq_none hp parent (rest_subset hk hm)
    have hsame := hx.relinked.siblings_of_not_mem hid hout
    rw [hsame.1, hsame.2]
    exact h.loose hp

/-- **A node taken out of a list of children is gone from it, and every other list stays.** -/
theorem Links.remove (h : store.Links kids) (hk : kids parent = l ++ child :: r)
    (hx : Removed store store' parent child l.getLast? r.head?) :
    store'.Links (withKids kids parent (l ++ r)) where
  ring := hx.ring h hk
  nodup := by
    have hd : (l ++ child :: r).Nodup := hk ▸ h.nodup parent
    exact nodup_withKids h.nodup (hd.sublist (by simp))
  parent := hx.mem_iff_parent? h hk
  loose := hx.loose h hk
  grounded := Subrelation.wf (mem_of_mem_withKids (rest_subset hk)) h.grounded

end Removal

end HtmlToHaml.DocTree.Store
