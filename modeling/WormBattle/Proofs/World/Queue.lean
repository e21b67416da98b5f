import Mathlib.Data.List.InsertIdx
import Mathlib.Data.List.Rotate
import WormBattle.Proofs.World.Reachable

/-!
# The queue

Between two turns the worms wait in a **queue** (`World.queue`): the turn order begun behind the
worm that has the turn, or at its place if it has left.

**Nobody overtakes.** When a worm leaves, the queue loses it and is otherwise as it was; when one
enters, the queue gains it somewhere (`World.Change.queue`). So of two worms that stay, the one that
is ahead of the other stays ahead between two turns (`World.Ahead.changes`).
-/

namespace WormBattle

variable {α : Type}

/-- The place at which the queue begins: behind the current worm, or at its place if it has left. -/
def Turn.next (turn : Turn) : Nat :=
  if turn.currentRemoved then turn.index else turn.index + 1

namespace Turn

variable {turn : Turn} {count index : Nat}

private theorem Within.next_le (h : turn.Within count) : turn.next ≤ count := by
  obtain ⟨hle, hlt⟩ := h
  rw [next]
  split
  · exact hle
  · rename_i hcurrent
    exact hlt (by simpa using hcurrent)

/-- The queue begins at the same worm after one has left, unless that one was the first. -/
theorem next_removed (turn : Turn) (index : Nat) :
    (turn.removed index).next = if index < turn.next then turn.next - 1 else turn.next := by
  obtain ⟨place, number, currentRemoved⟩ := turn
  simp only [removed, next]
  cases currentRemoved with
  | true =>
    by_cases hless : index < place
    · simp [hless]
    · by_cases heq : index = place <;> simp [hless, heq]
  | false =>
    rcases Nat.lt_trichotomy index place with hless | heq | hmore
    · have hsucc : index < place + 1 := by omega
      have hpos : place - 1 + 1 = place := by omega
      simp [hless, hsucc, hpos]
    · simp [heq]
    · have hless : ¬index < place := by omega
      have heq : index ≠ place := by omega
      have hsucc : ¬index < place + 1 := by omega
      simp [hless, heq, hsucc]

/-- A removed worm does not change the number of the turn. -/
theorem number_removed (turn : Turn) (index : Nat) : (turn.removed index).number = turn.number := by
  rw [removed]
  split
  · rfl
  · split <;> rfl

end Turn

/-! ### Rotated lists -/

section Lists

variable {β : Type} {l : List β} {a b : β} {k : Nat}

private theorem rotate_eraseIdx_sublist (r : Nat) (hk : k ≤ l.length) :
    ((l.eraseIdx r).rotate (if r < k then k - 1 else k)).Sublist (l.rotate k) := by
  rw [List.rotate_eq_drop_append_take hk]
  have hlength : (l.take k).length = k := List.length_take_of_le hk
  -- An element before the cut takes the cut with it, one behind the cut leaves it where it is.
  by_cases hrk : r < k
  · have herase : l.eraseIdx r = (l.take k).eraseIdx r ++ l.drop k := by
      conv_lhs => rw [← List.take_append_drop k l]
      exact List.eraseIdx_append_of_lt_length (by omega) _
    have hfront : ((l.take k).eraseIdx r).length = k - 1 := by
      rw [List.length_eraseIdx_of_lt (by omega), hlength]
    rw [if_pos hrk, herase, ← hfront, List.rotate_append_length_eq]
    exact (List.Sublist.refl _).append (List.eraseIdx_sublist _ _)
  · have herase : l.eraseIdx r = l.take k ++ (l.drop k).eraseIdx (r - k) := by
      conv_lhs => rw [← List.take_append_drop k l]
      rw [List.eraseIdx_append_of_length_le (by omega), hlength]
    rw [if_neg hrk, herase]
    have hrotate := List.rotate_append_length_eq (l.take k) ((l.drop k).eraseIdx (r - k))
    rw [hlength] at hrotate
    rw [hrotate]
    exact (List.eraseIdx_sublist _ _).append (List.Sublist.refl _)

private theorem rotate_sublist_rotate_append (hk : k ≤ l.length) (x : β) :
    (l.rotate k).Sublist ((l ++ [x]).rotate k) := by
  have hlength : k ≤ (l ++ [x]).length := by
    rw [List.length_append]
    omega
  rw [List.rotate_eq_drop_append_take hk, List.rotate_eq_drop_append_take hlength,
    List.drop_append_of_le_length hk, List.take_append_of_le_length hk]
  exact (List.sublist_append_left _ _).append (List.Sublist.refl _)

/-- Of two elements of a list one comes before the other. -/
theorem pair_sublist_or (ha : a ∈ l) (hb : b ∈ l) (hab : a ≠ b) :
    [a, b].Sublist l ∨ [b, a].Sublist l := by
  obtain ⟨front, back, rfl⟩ := List.append_of_mem ha
  rcases List.mem_append.mp hb with hb | hb
  · right
    exact (List.singleton_sublist.mpr hb).append (List.singleton_sublist.mpr List.mem_cons_self)
  · left
    have hb : b ∈ back := (List.mem_cons.mp hb).resolve_left fun h => hab h.symm
    exact ((List.singleton_sublist.mpr hb).cons_cons a).trans (List.sublist_append_right _ _)

/-- Without repetitions only one of them does. -/
theorem not_pair_sublist_of_nodup (hl : l.Nodup) (hab : [a, b].Sublist l) :
    ¬[b, a].Sublist l := by
  intro hba
  induction l with
  | nil => cases hab
  | cons x l ih =>
    obtain ⟨hx, hl⟩ := List.nodup_cons.mp hl
    have hmem : ∀ {c d : β}, [c, d].Sublist (x :: l) → d ∈ l := by
      intro c d hcd
      cases hcd with
      | cons _ hcd => exact hcd.subset (by simp)
      | cons_cons _ hd => exact List.singleton_sublist.mp hd
    have ha := hmem hba
    have hb := hmem hab
    -- Neither pair begins with the head, for its first element also stands in the tail.
    cases hab with
    | cons_cons _ _ => exact hx ha
    | cons _ hab =>
      cases hba with
      | cons_cons _ _ => exact hx hb
      | cons _ hba => exact ih hl hab hba

end Lists

/-- A turn order from the place on at which the queue begins. -/
def WorldState.queue (order : List EntityId) : WorldState → List EntityId
  | .inProgress turn => order.rotate turn.next
  | _ => []

namespace World

/-- The worms in turn order. -/
def order (w : World α) : List EntityId :=
  w.worms.map Worm.id

/-- The worms that wait for their turns, in the order in which they get them. -/
def queue (w : World α) : List EntityId :=
  w.state.queue (w.worms.map Worm.id)

variable {traffic : Traffic} {w w' : World α} {turn : Turn} {worm : Worm α} {id : EntityId}

/-- The worms in the order in which they wait, once the game has begun. -/
theorem queue_eq (hturn : w.state = .inProgress turn) :
    w.queue = (w.worms.map Worm.id).rotate turn.next := by
  rw [queue, hturn, WorldState.queue]

/-- A listed worm waits for its turn, once the game has begun. -/
theorem mem_queue (hturn : w.state = .inProgress turn) (hworm : w.worm? id = some worm) :
    id ∈ w.queue := by
  rw [queue_eq hturn, List.mem_rotate]
  exact List.mem_map.mpr ⟨worm, mem_of_worm? hworm, id_of_worm? hworm⟩

variable [Scalar α]

/-- No worm waits twice. -/
theorem Sound.nodup_queue (h : w.Sound) : w.queue.Nodup := by
  rw [queue]
  cases w.state with
  | inProgress turn => exact List.nodup_rotate.mpr h.nodup
  | _ => exact List.nodup_nil

/-- What a change does to the turn order and to the state of the world. -/
theorem Change.order (h : w.Change traffic w') :
    (w'.order = w.order ∧ w'.state = w.state) ∨
      (traffic = .entering ∧ (∃ id, w'.order = w.order ++ [id]) ∧ w'.state = w.state) ∨
      (traffic = .leaving ∧ ∃ index, w'.order = w.order.eraseIdx index ∧
        w'.state = w.stateWithout index) := by
  cases h with
  | worm _ _ _ | join _ _ => exact .inl ⟨map_id_replaceWorm w.worms _, rfl⟩
  | addFood _ _ | removeFood _ | launch _ _ _ | land | addTeam _ _ _ | draw => exact .inl ⟨rfl, rfl⟩
  | @addWorm worm body hentering _ _ _ _ =>
    exact .inr (.inl ⟨hentering, ⟨_, List.map_append⟩, rfl⟩)
  | @removeWorm _ index hleaving _ =>
    exact .inr (.inr ⟨hleaving, index, (List.eraseIdx_map Worm.id w.worms index).symm, rfl⟩)

/-- **Nobody overtakes**: a change leaves the queue as it is, or it lets a worm in or takes one
out. -/
theorem Change.queue (hs : w.Sound) (h : w.Change traffic w') :
    w'.queue = w.queue ∨ (traffic = .entering ∧ w.queue.Sublist w'.queue) ∨
      (traffic = .leaving ∧ w'.queue.Sublist w.queue) := by
  have hqueue : ∀ w : World α, w.queue = w.state.queue w.order := fun _ => rfl
  have hnext : ∀ turn, w.state = .inProgress turn → turn.next ≤ w.order.length := by
    intro turn hturn
    rw [World.order, List.length_map]
    exact (hs.turn turn hturn).next_le
  rw [hqueue, hqueue]
  rcases h.order with ⟨horder, hstate⟩ | ⟨hentering, ⟨id, horder⟩, hstate⟩ |
    ⟨hleaving, index, horder, hstate⟩
  · rw [horder, hstate]
    exact .inl rfl
  · refine .inr (.inl ⟨hentering, ?_⟩)
    rw [horder, hstate]
    cases hturn : w.state with
    | inProgress turn => exact rotate_sublist_rotate_append (hnext turn hturn) _
    | _ => exact List.nil_sublist _
  · refine .inr (.inr ⟨hleaving, ?_⟩)
    rw [horder, hstate, stateWithout]
    cases hturn : w.state with
    | inProgress turn =>
      show ((w.order.eraseIdx index).rotate (turn.removed index).next).Sublist _
      rw [Turn.next_removed]
      exact rotate_eraseIdx_sublist index (hnext turn hturn)
    | _ => exact List.nil_sublist _

/-- The turn is the same one after a change, and the game has begun if it had. -/
theorem Change.state (h : w.Change traffic w') : w'.turnNumber? = w.turnNumber? ∧
    (w'.state = .notStarted ↔ w.state = .notStarted) := by
  cases h with
  | @removeWorm id index _ _ =>
    show World.turnNumber? { w with worms := _, state := w.stateWithout index } = _ ∧
      (w.stateWithout index = .notStarted ↔ _)
    rw [turnNumber?, turnNumber?, stateWithout]
    cases w.state with
    | inProgress turn => exact ⟨congrArg some (turn.number_removed index), by simp⟩
    | _ => exact ⟨rfl, Iff.rfl⟩
  | _ => exact ⟨rfl, Iff.rfl⟩

/-- Changes neither begin a game nor hand on the turn. -/
theorem Changes.state (h : w.Changes traffic w') : w'.turnNumber? = w.turnNumber? ∧
    (w'.state = .notStarted ↔ w.state = .notStarted) := by
  induction h with
  | refl => exact ⟨rfl, Iff.rfl⟩
  | tail _ h ih => exact ⟨h.state.1.trans ih.1, h.state.2.trans ih.2⟩

private theorem Changes.queue (hs : w.Sound) (h : w.Changes traffic w') :
    (traffic = .entering → w.queue.Sublist w'.queue) ∧
      (traffic = .leaving → w'.queue.Sublist w.queue) := by
  induction h with
  | refl => exact ⟨fun _ => .refl _, fun _ => .refl _⟩
  | tail hbefore h ih =>
    rcases h.queue (hs.changes hbefore) with heq | ⟨rfl, hsub⟩ | ⟨rfl, hsub⟩
    · rw [heq]
      exact ih
    · exact ⟨fun _ => (ih.1 rfl).trans hsub, fun h => by cases h⟩
    · exact ⟨fun h => (by cases h), fun _ => hsub.trans (ih.2 rfl)⟩

omit [Scalar α] in
/-- A game is in progress if there is a number of the turn. -/
theorem exists_inProgress_iff : (∃ turn, w.state = .inProgress turn) ↔ w.turnNumber?.isSome := by
  rw [turnNumber?]
  cases w.state <;> simp

/-! ### Who is ahead -/

/-- Somebody has had a turn, and while the game goes on one worm waits ahead of another. -/
structure Ahead (w : World α) (front back : EntityId) : Prop where
  begun : w.state ≠ .notStarted
  waits : ∀ turn, w.state = .inProgress turn → [front, back].Sublist w.queue

variable {front back : EntityId} {first second : Worm α}

/-- Changes let a worm stay ahead of another as long as both are listed. -/
theorem Ahead.changes (h : w.Ahead front back) (hs : w.Sound) (hchanges : w.Changes traffic w')
    (hne : front ≠ back) (hfront : w'.worm? front = some first)
    (hback : w'.worm? back = some second) : w'.Ahead front back := by
  obtain ⟨hnumber, hbegun⟩ := hchanges.state
  refine ⟨fun hnot => h.begun (hbegun.mp hnot), fun turn hturn => ?_⟩
  obtain ⟨before, hbefore⟩ : ∃ turn, w.state = .inProgress turn := by
    rw [exists_inProgress_iff, ← hnumber, ← exists_inProgress_iff]
    exact ⟨turn, hturn⟩
  have hahead := h.waits before hbefore
  obtain ⟨hentering, hleaving⟩ := hchanges.queue hs
  cases traffic with
  | entering => exact hahead.trans (hentering rfl)
  | leaving =>
    rcases pair_sublist_or (mem_queue hturn hfront) (mem_queue hturn hback) hne with hpair | hpair
    · exact hpair
    · exact absurd (hpair.trans (hleaving rfl)) (not_pair_sublist_of_nodup hs.nodup_queue hahead)

end World

end WormBattle
