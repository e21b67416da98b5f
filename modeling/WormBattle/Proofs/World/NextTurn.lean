import WormBattle.Proofs.World.Queue

/-!
# The next turn

When a turn ends, the first living worm of the queue gets the next one (`World.nextIndex_eq`), and
that worm and the dead ones before it go to the end of the queue (`World.queue_withTurn`). Hence it
comes to stand behind every other living worm (`World.ahead_of_next`), and nobody gets the turn
while a living worm waits ahead of it (`World.Ahead.ne_next`).
-/

namespace WormBattle

variable {α : Type} [Scalar α]

namespace World

variable {w : World α} {turn : Turn} {id front back : EntityId}

omit [Scalar α] in
/-- Round the turn order from a place on, there is a first living worm. -/
theorem exists_first_living {worm : Worm α} (hworm : worm ∈ w.worms) (halive : worm.isAlive = true)
    (place : Nat) : ∃ dead next rest, w.worms.rotate place = dead ++ next :: rest ∧
      next.isAlive = true ∧ ∀ x ∈ dead, x.isAlive = false := by
  have hmem : worm ∈ w.worms.rotate place := List.mem_rotate.mpr hworm
  obtain ⟨next, hnext⟩ : ∃ next, (w.worms.rotate place).find? Worm.isAlive = some next := by
    rw [← Option.isSome_iff_exists, List.find?_isSome]
    exact ⟨worm, hmem, halive⟩
  obtain ⟨hliving, dead, rest, hsplit, hdead⟩ := List.find?_eq_some_iff_append.mp hnext
  exact ⟨dead, next, rest, hsplit, hliving, fun x hx => by simpa using hdead x hx⟩

omit [Scalar α] in
/-- The search for a living worm finds the first one. -/
theorem livingFrom_eq {dead rest : List (Worm α)} {next : Worm α} {place steps : Nat}
    (hplace : place < w.worms.length) (hsplit : w.worms.rotate place = dead ++ next :: rest)
    (hnext : next.isAlive = true) (hdead : ∀ x ∈ dead, x.isAlive = false)
    (hsteps : dead.length < steps) :
    w.livingFrom steps place = (place + dead.length) % w.worms.length := by
  have hpos : 0 < w.worms.length := Nat.zero_lt_of_lt hplace
  have hhere : w.worms[place]? = (w.worms.rotate place)[0]? := by
    rw [List.getElem?_rotate hpos, Nat.zero_add, Nat.mod_eq_of_lt hplace]
  induction dead generalizing place steps rest with
  | nil =>
    obtain ⟨steps, rfl⟩ := Nat.exists_eq_succ_of_ne_zero (Nat.ne_of_gt hsteps)
    have hfound : w.worms[place]? = some next := by
      rw [hhere, hsplit]
      rfl
    rw [livingFrom, hfound]
    dsimp only
    rw [if_pos hnext, List.length_nil, Nat.add_zero, Nat.mod_eq_of_lt hplace]
  | cons first dead ih =>
    obtain ⟨steps, rfl⟩ := Nat.exists_eq_succ_of_ne_zero (Nat.ne_of_gt (Nat.zero_lt_of_lt hsteps))
    obtain ⟨hfirst, hdead⟩ := List.forall_mem_cons.mp hdead
    have hfound : w.worms[place]? = some first := by
      rw [hhere, hsplit]
      rfl
    rw [livingFrom, hfound]
    dsimp only
    rw [hfirst, if_neg Bool.false_ne_true]
    -- The search goes on one place further, where the list begins behind the dead worm.
    have hfurther : w.worms.rotate ((place + 1) % w.worms.length) =
        dead ++ next :: (rest ++ [first]) := by
      rw [List.rotate_mod, ← List.rotate_rotate, hsplit]
      simp
    have hlt : (place + 1) % w.worms.length < w.worms.length := Nat.mod_lt _ hpos
    have hagain : w.worms[(place + 1) % w.worms.length]? =
        (w.worms.rotate ((place + 1) % w.worms.length))[0]? := by
      rw [List.getElem?_rotate hpos, Nat.zero_add, Nat.mod_eq_of_lt hlt]
    rw [ih hlt hfurther hdead (by simpa using hsteps) hagain, Nat.mod_add_mod, List.length_cons]
    congr 1
    omega

omit [Scalar α] in
/-- The turn goes past the dead worms to the first living one. -/
theorem nextIndex_eq {dead rest : List (Worm α)} {next : Worm α}
    (hsplit : w.worms.rotate turn.next = dead ++ next :: rest) (hnext : next.isAlive = true)
    (hdead : ∀ x ∈ dead, x.isAlive = false) :
    w.nextIndex turn = (turn.next + dead.length) % w.worms.length := by
  have hlength : w.worms.length = dead.length + (rest.length + 1) := by
    simpa using congrArg List.length hsplit
  have hplace : turn.next % w.worms.length < w.worms.length := Nat.mod_lt _ (by omega)
  have hnextIndex : w.nextIndex turn =
      w.livingFrom w.worms.length (turn.next % w.worms.length) := by
    rw [nextIndex, Turn.next]
    cases turn.currentRemoved <;> rfl
  rw [hnextIndex, livingFrom_eq hplace (by rw [List.rotate_mod, hsplit]) hnext hdead (by omega),
    Nat.mod_add_mod]

/-- When the first living worm gets the turn, it and the dead ones before it go to the end of the
queue. -/
theorem queue_withTurn {dead rest : List (Worm α)} {next : Worm α} {place : Nat} (number : Nat)
    (hsplit : w.worms.rotate place = dead ++ next :: rest) :
    (w.withTurn ((place + dead.length) % w.worms.length) number).queue =
      (rest ++ (dead ++ [next])).map Worm.id := by
  have hids : (w.worms.map Worm.id).length = w.worms.length := List.length_map _
  have hround : (w.worms.map Worm.id).rotate place = (dead ++ [next]).map Worm.id ++
      rest.map Worm.id := by
    rw [← List.map_rotate, hsplit, ← List.map_append, List.append_assoc, List.singleton_append]
  have hfront : ((dead ++ [next]).map Worm.id).length = dead.length + 1 := by simp
  calc (w.withTurn ((place + dead.length) % w.worms.length) number).queue
      = (w.worms.map Worm.id).rotate ((place + dead.length) % w.worms.length + 1) := by
        show ((w.worms.modify _ Worm.rested).map Worm.id).rotate _ = _
        rw [map_modify_rested fun _ => rfl]
        rfl
    _ = (w.worms.map Worm.id).rotate (place + (dead.length + 1)) := by
        rw [← List.rotate_rotate, ← hids, List.rotate_mod, List.rotate_rotate, Nat.add_assoc]
    _ = ((dead ++ [next]).map Worm.id ++ rest.map Worm.id).rotate (dead.length + 1) := by
        rw [← List.rotate_rotate, hround]
    _ = rest.map Worm.id ++ (dead ++ [next]).map Worm.id := by
        rw [← hfront, List.rotate_append_length_eq]
    _ = (rest ++ (dead ++ [next])).map Worm.id := List.map_append.symm

omit [Scalar α] in
/-- The place at which the search for a living worm ends. -/
theorem getElem?_worms_of_rotate {dead rest : List (Worm α)} {next : Worm α} {place : Nat}
    (hsplit : w.worms.rotate place = dead ++ next :: rest) :
    w.worms[(place + dead.length) % w.worms.length]? = some next := by
  have hlength : dead.length < w.worms.length := by
    have hlengths : w.worms.length = dead.length + (rest.length + 1) := by
      simpa using congrArg List.length hsplit
    omega
  rw [Nat.add_comm, ← List.getElem?_rotate hlength, hsplit]
  simp

/-- The worm at the place of the turn has it. -/
theorem currentWorm?_withTurn {next : Worm α} {index : Nat} (number : Nat)
    (hnext : w.worms[index]? = some next) :
    (w.withTurn index number).currentWorm? = some next.rested := by
  show (w.worms.modify index Worm.rested)[index]? = _
  rw [List.getElem?_modify_eq, hnext]
  rfl

/-- A worm is listed and alive. -/
def Living (w : World α) (id : EntityId) : Prop :=
  ∃ worm, w.worm? id = some worm ∧ worm.isAlive = true

instance (w : World α) (id : EntityId) : Decidable (w.Living id) :=
  decidable_of_iff ((w.worm? id).any Worm.isAlive = true) (Option.any_eq_true _ _)

section Passing

variable {dead rest : List (Worm α)} {next : Worm α} {place : Nat}

omit [Scalar α] in
/-- A living worm that is not the next one waits behind it. -/
theorem Living.mem_rest (h : w.Living id) (hsplit : w.worms.rotate place = dead ++ next :: rest)
    (hdead : ∀ x ∈ dead, x.isAlive = false) (hne : next.id ≠ id) : id ∈ rest.map Worm.id := by
  obtain ⟨worm, hworm, halive⟩ := h
  have hmem : worm ∈ dead ++ next :: rest := by
    rw [← hsplit, List.mem_rotate]
    exact mem_of_worm? hworm
  have hid : worm.id = id := id_of_worm? hworm
  -- It is not among the dead ones, and it is not the next one.
  rcases List.mem_append.mp hmem with hmem | hmem
  · rw [hdead worm hmem] at halive
    cases halive
  · rcases List.mem_cons.mp hmem with heq | hmem
    · exact absurd (heq ▸ hid) hne
    · exact List.mem_map.mpr ⟨worm, hmem, hid⟩

/-- The worm that gets the turn goes behind every other living worm. -/
theorem ahead_of_next (number : Nat) (hsplit : w.worms.rotate place = dead ++ next :: rest)
    (hdead : ∀ x ∈ dead, x.isAlive = false) (hfront : w.Living front) (hne : next.id ≠ front) :
    (w.withTurn ((place + dead.length) % w.worms.length) number).Ahead front next.id := by
  refine ⟨fun h => (by cases h), fun _ _ => ?_⟩
  rw [queue_withTurn number hsplit, List.map_append, List.map_append]
  have hrest : [front].Sublist (rest.map Worm.id) :=
    List.singleton_sublist.mpr (hfront.mem_rest hsplit hdead hne)
  exact hrest.append (List.sublist_append_right _ _)

/-- Nobody gets the turn while a living worm waits ahead of it. -/
theorem Ahead.ne_next (h : w.Ahead front back) (hs : w.Sound) (hturn : w.state = .inProgress turn)
    (hsplit : w.worms.rotate turn.next = dead ++ next :: rest)
    (hdead : ∀ x ∈ dead, x.isAlive = false) (hfront : w.Living front) (hne : front ≠ back) :
    next.id ≠ back := by
  rintro rfl
  have hqueue : w.queue = dead.map Worm.id ++ next.id :: rest.map Worm.id := by
    rw [queue_eq hturn, ← List.map_rotate, hsplit, List.map_append, List.map_cons]
  have hmem : front ∈ rest.map Worm.id := hfront.mem_rest hsplit hdead fun h => hne h.symm
  have hbehind : [next.id, front].Sublist w.queue := by
    rw [hqueue]
    exact ((List.singleton_sublist.mpr hmem).cons_cons next.id).trans
      (List.sublist_append_right _ _)
  exact not_pair_sublist_of_nodup hs.nodup_queue hbehind (h.waits turn hturn)

/-- Two living worms of which neither gets the turn stay as they are. -/
theorem Ahead.withTurn (h : w.Ahead front back) (hs : w.Sound) (number : Nat)
    (hturn : w.state = .inProgress turn)
    (hsplit : w.worms.rotate turn.next = dead ++ next :: rest)
    (hdead : ∀ x ∈ dead, x.isAlive = false) (hfront : w.Living front) (hback : w.Living back)
    (hne : front ≠ back) (hfront' : next.id ≠ front) (hback' : next.id ≠ back) :
    (w.withTurn ((turn.next + dead.length) % w.worms.length) number).Ahead front back := by
  have hqueue : w.queue = (dead ++ [next]).map Worm.id ++ rest.map Worm.id := by
    rw [queue_eq hturn, ← List.map_rotate, hsplit, ← List.map_append, List.append_assoc,
      List.singleton_append]
  have hrest : [front, back].Sublist (rest.map Worm.id) := by
    have hmem := hfront.mem_rest hsplit hdead hfront'
    have hmem' := hback.mem_rest hsplit hdead hback'
    rcases pair_sublist_or hmem hmem' hne with hpair | hpair
    · exact hpair
    · have hbehind : [back, front].Sublist w.queue := by
        rw [hqueue]
        exact hpair.trans (List.sublist_append_right _ _)
      exact absurd hbehind (not_pair_sublist_of_nodup hs.nodup_queue (h.waits turn hturn))
  refine ⟨fun h => (by cases h), fun _ _ => ?_⟩
  rw [queue_withTurn number hsplit, List.map_append]
  exact hrest.trans (List.sublist_append_left _ _)

end Passing

end World

end WormBattle
