import Rendezvous.Proofs.Heartbeat.Verdicts

/-!
# Whom a round takes out

When all its connections are judged, a round takes out the dead ones, in their order, and closes
them. Until then the switchboard may have changed: a dead connection may have left by itself, and its
user may be connected again by another one. A connection that is taken out is taken from its user
only if it is still the current one, and closed in any case.

So the connections that a round closes are those that failed (`Patrol.closes_iff_fails`), each of
them is taken out once, and the number that it returns is that of those which were current
(`Patrol.exists_evicted`). Nobody else is disconnected or closed by it (`Patrol.current?_iff`,
`Patrol.isClosed_iff`), whatever happens meanwhile.

What a round finds out about silence may be old when it is acted upon: a connection is taken out
because it was silent when the round looked at it, and its client may have been heard since
(`Patrol.silent_or_touched`).
-/

namespace Rendezvous

/-! ### Who is closed -/

namespace Switchboard

variable {h : Switchboard} {id id' : ConnectionId}

theorem isClosed_close_iff (hknown : ∃ c, h.connection? id' = some c) :
    (h.close id').IsClosed id ↔ h.IsClosed id ∨ id = id' := by
  constructor
  · rintro ⟨c, hc, hflag⟩
    by_cases hid : id = id'
    · exact Or.inr hid
    · rw [close, connection?_update, if_neg hid] at hc
      exact Or.inl ⟨c, hc, hflag⟩
  · rintro (hclosed | rfl)
    · exact hclosed.close id'
    · obtain ⟨c, hc⟩ := hknown
      have howner : h.owner? id = some c.user := by
        rw [owner?, hc]
        rfl
      exact isClosed_close howner

end Switchboard

/-! ### The dead connections in their order -/

namespace Inspection

variable {i i' : Inspection} {m : Move} {id : ConnectionId} {writeWait liveness : Nanos}
  {ids : List ConnectionId}

/-- The connections that the round takes out, in this order. There are none before all are judged. -/
def victims (i : Inspection) : List ConnectionId :=
  if i.round.isJudged then i.round.dead else []

/-- Those that it has closed. -/
def shut (i : Inspection) : List ConnectionId :=
  i.victims.take i.done

/-- Those that it has taken out. -/
def takenOut (i : Inspection) : List ConnectionId :=
  i.victims.take (i.done + i.closing.toNat)

theorem next?_eq (i : Inspection) : i.next? = i.victims[i.done]? := by
  unfold next? victims
  split <;> simp

/-- The next one is dead. -/
theorem mem_dead_of_next? (hnext : i.next? = some id) : id ∈ i.round.dead := by
  rw [next?] at hnext
  split at hnext
  · exact List.mem_of_getElem? hnext
  · exact absurd hnext (Option.some_ne_none id).symm

/-- The next one stands behind those that are dealt with. -/
theorem take_victims_succ (hnext : i.next? = some id) :
    i.victims.take (i.done + 1) = i.victims.take i.done ++ [id] := by
  rw [List.take_add_one, ← next?_eq, hnext, Option.toList_some]

theorem Sound.nodup_victims (hs : i.Sound writeWait liveness ids) : i.victims.Nodup := by
  unfold victims
  split
  · exact hs.nodup_candidates.sublist (List.filter_sublist.map _)
  · exact List.nodup_nil

/-- Whom the round takes out is known when it begins to do so. -/
theorem Effect.victims_eq (hs : i.Sound writeWait liveness ids) (he : i.Effect m i') :
    i'.victims = i.victims ∨ (i.done = 0 ∧ i.closing = false ∧ i'.done = 0 ∧ i'.closing = false) := by
  cases hjudged : i.round.isJudged with
  | true =>
    refine Or.inl ?_
    unfold victims
    rw [he.round_eq hjudged]
  | false =>
    have hearly := hs.early hjudged
    refine Or.inr ⟨hearly.1, hearly.2, ?_⟩
    cases he with
    | removed hnext => exact absurd hnext (not_toRemove hjudged _)
    | closed hnext => exact absurd hnext (not_toClose hjudged _)
    | _ => exact hearly

/-- **One connection more is closed**, or no other. -/
theorem Effect.shut_cases (hs : i.Sound writeWait liveness ids) (he : i.Effect m i') :
    (∃ id, (m = .close ∧ i.ToClose id) ∧ i'.shut = i.shut ++ [id]) ∨
      (∀ id, ¬(m = .close ∧ i.ToClose id)) ∧ i'.shut = i.shut := by
  -- as long as the number of those that are dealt with is the same
  have hsame : i'.done = i.done → i'.shut = i.shut := by
    intro hdone
    unfold shut
    rcases he.victims_eq hs with hvictims | ⟨hzero, -, hzero', -⟩
    · rw [hvictims, hdone]
    · rw [hzero, hzero', List.take_zero, List.take_zero]
  cases he with
  | idle hidle =>
    refine Or.inr ⟨?_, hsame rfl⟩
    rintro id ⟨rfl, hclose⟩
    exact hidle ⟨id, hclose⟩
  | @closed id hnext => exact Or.inl ⟨id, ⟨rfl, hnext⟩, take_victims_succ hnext.1⟩
  | _ => exact Or.inr ⟨fun id hclose => absurd hclose.1 nofun, hsame rfl⟩

/-- **One connection more is taken out**, or no other. -/
theorem Effect.takenOut_cases (hs : i.Sound writeWait liveness ids) (he : i.Effect m i') :
    (∃ id, (m = .remove ∧ i.ToRemove id) ∧ i'.takenOut = i.takenOut ++ [id]) ∨
      (∀ id, ¬(m = .remove ∧ i.ToRemove id)) ∧ i'.takenOut = i.takenOut := by
  have hsame : i'.done + i'.closing.toNat = i.done + i.closing.toNat → i'.takenOut = i.takenOut := by
    intro hdone
    unfold takenOut
    rcases he.victims_eq hs with hvictims | ⟨hzero, hopen, hzero', hopen'⟩
    · rw [hvictims, hdone]
    · simp [hzero, hzero', hopen, hopen']
  cases he with
  | idle hidle =>
    refine Or.inr ⟨?_, hsame rfl⟩
    rintro id ⟨rfl, hremove⟩
    exact hidle ⟨id, hremove⟩
  | @removed id hnext =>
    refine Or.inl ⟨id, ⟨rfl, hnext⟩, ?_⟩
    unfold takenOut
    rw [hnext.2]
    exact take_victims_succ hnext.1
  | closed hnext =>
    refine Or.inr ⟨fun id hremove => absurd hremove.1 nofun, hsame ?_⟩
    rw [hnext.2]
    rfl
  | _ => exact Or.inr ⟨fun id hremove => absurd hremove.1 nofun, hsame rfl⟩

/-- A connection that is closed stays closed, whatever happens. -/
theorem Effect.isClosed (hs : i.Sound writeWait liveness ids) (he : i.Effect m i')
    (hclosed : i.board.IsClosed id) : i'.board.IsClosed id := by
  cases he with
  | @happened e =>
    by_cases harrive : ∃ user, e = .arrive user
    · obtain ⟨user, rfl⟩ := harrive
      refine hclosed.open ?_ user i.now
      cases howner : i.board.owner? i.board.connections.size with
      | none => rfl
      | some owner =>
        obtain ⟨c, hc, -⟩ := Option.map_eq_some_iff.1 howner
        exact absurd (hs.owned.fresh _ c hc) (Nat.lt_irrefl _)
    · exact (Watch.Event.lasts (fun user he => harrive ⟨user, he⟩) i.now).closed id hclosed
  | @looked id' hnew =>
    dsimp only
    rcases i.round.check_cases i.now id' i.board with ⟨reason, hcheck⟩ | hcheck <;> rw [hcheck]
    · exact hclosed
    · have hkeeps : i.board.Keeps (fun _ => True) _ :=
        Switchboard.keeps_probe id' i.now i.round.writeWait
      exact hkeeps.closed id hclosed
  | @removed id' hnext => exact hclosed.congr (i.board.connections_withdraw id')
  | @closed id' hnext => exact hclosed.close id'
  | @waited span => exact hclosed.congr rfl
  | _ => exact hclosed

end Inspection

namespace Patrol

variable {p : Patrol} {j k n : Nat} {id : ConnectionId} {user : UserId}

/-! ### Taking out and closing -/

/-- The round takes a connection out by this move. -/
def Removes (p : Patrol) (k : Nat) (id : ConnectionId) : Prop :=
  p.move k = .remove ∧ (p.inspection k).ToRemove id

/-- The round closes a connection by this move. -/
def Closes (p : Patrol) (k : Nat) (id : ConnectionId) : Prop :=
  p.move k = .close ∧ (p.inspection k).ToClose id

/-- The round takes a connection out that is the current one of its user. -/
def Evicts (p : Patrol) (k : Nat) (id : ConnectionId) : Prop :=
  p.Removes k id ∧ ∃ user, (p.inspection k).board.current? user = some id

theorem Removes.unique {id' : ConnectionId} (hremoves : p.Removes k id)
    (hremoves' : p.Removes k id') : id = id' :=
  Option.some.inj (hremoves.2.1.symm.trans hremoves'.2.1)

theorem Closes.unique {id' : ConnectionId} (hcloses : p.Closes k id) (hcloses' : p.Closes k id') :
    id = id' :=
  Option.some.inj (hcloses.2.1.symm.trans hcloses'.2.1)

/-- **A list that grows with the moves** contains the connections to which something was done. -/
theorem exists_lt_iff_mem (does : Nat → ConnectionId → Prop) (l : Nat → List ConnectionId)
    (hzero : l 0 = []) (hunique : ∀ k id id', does k id → does k id' → id = id')
    (hstep : ∀ k, (∃ id, does k id ∧ l (k + 1) = l k ++ [id]) ∨
      (∀ id, ¬does k id) ∧ l (k + 1) = l k) (n : Nat) (id : ConnectionId) :
    (∃ k < n, does k id) ↔ id ∈ l n := by
  induction n with
  | zero => simp [hzero]
  | succ n ih =>
    rw [Nat.exists_lt_succ_right, ih]
    rcases hstep n with ⟨id', hdoes, hlist⟩ | ⟨hnone, hlist⟩
    · have hiff : does n id ↔ id = id' :=
        ⟨fun hd => hunique n id id' hd hdoes, fun he => he ▸ hdoes⟩
      rw [hlist, hiff, List.mem_append, List.mem_singleton]
    · rw [hlist]
      exact or_iff_left (hnone id)

theorem closes_iff (p : Patrol) (n : Nat) (id : ConnectionId) :
    (∃ k < n, p.Closes k id) ↔ id ∈ (p.inspection n).shut :=
  exists_lt_iff_mem p.Closes (fun k => (p.inspection k).shut) List.take_zero
    (fun _ _ _ => Closes.unique) (fun k => (p.effect k).shut_cases (p.sound k)) n id

theorem removes_iff (p : Patrol) (n : Nat) (id : ConnectionId) :
    (∃ k < n, p.Removes k id) ↔ id ∈ (p.inspection n).takenOut :=
  exists_lt_iff_mem p.Removes (fun k => (p.inspection k).takenOut) List.take_zero
    (fun _ _ _ => Removes.unique) (fun k => (p.effect k).takenOut_cases (p.sound k)) n id

/-- The number of a round grows when a connection is taken out that is current, and only then. -/
theorem evicted_succ (p : Patrol) (n : Nat) :
    (∃ id, p.Evicts n id ∧ (p.inspection (n + 1)).evicted = (p.inspection n).evicted + 1) ∨
      (∀ id, ¬p.Evicts n id) ∧ (p.inspection (n + 1)).evicted = (p.inspection n).evicted := by
  have heffect := p.effect n
  have hevicts : ∀ id, p.Evicts n id ↔ (p.move n = .remove ∧ (p.inspection n).ToRemove id) ∧
      ∃ user, (p.inspection n).board.current? user = some id := fun _ => Iff.rfl
  generalize p.move n = m, p.inspection (n + 1) = i' at heffect hevicts ⊢
  cases heffect with
  | idle hidle =>
    refine Or.inr ⟨fun id he => hidle ?_, rfl⟩
    obtain ⟨⟨rfl, hremove⟩, -⟩ := (hevicts id).1 he
    exact ⟨id, hremove⟩
  | @removed id hnext =>
    have hcurrent : ((p.inspection n).board.withdraw id).1 = true ↔
        ∃ user, (p.inspection n).board.current? user = some id := by
      rw [Switchboard.withdraw_eq_true]
      refine exists_congr fun user => and_iff_right_of_imp fun hcurrent => ?_
      obtain ⟨c, hc, rfl⟩ := (p.sound n).owned.current user id hcurrent
      rw [Switchboard.owner?, hc]
      rfl
    cases hanswer : ((p.inspection n).board.withdraw id).1 with
    | true => exact Or.inl ⟨id, (hevicts id).2 ⟨⟨rfl, hnext⟩, hcurrent.1 hanswer⟩, by simp⟩
    | false =>
      refine Or.inr ⟨fun id' he => ?_, by simp⟩
      obtain ⟨⟨-, hremove⟩, huser⟩ := (hevicts id').1 he
      obtain rfl : id = id' := Option.some.inj (hnext.1.symm.trans hremove.1)
      exact absurd (hcurrent.2 huser) (by simp [hanswer])
  | _ => exact Or.inr ⟨fun id he => absurd ((hevicts id).1 he).1.1 (by simp), rfl⟩

/-- **The number of a round** is that of the connections that it has taken out while they were
current, each of them once. -/
theorem exists_evicted (p : Patrol) (n : Nat) :
    ∃ evicted : List ConnectionId, evicted.Sublist (p.inspection n).takenOut ∧
      (∀ id, id ∈ evicted ↔ ∃ k < n, p.Evicts k id) ∧
      (p.inspection n).evicted = evicted.length := by
  induction n with
  | zero => exact ⟨[], List.nil_sublist _, by simp, rfl⟩
  | succ n ih =>
    obtain ⟨evicted, hsub, hmem, hlength⟩ := ih
    have hmem' : ∀ id, (∃ k < n + 1, p.Evicts k id) ↔ id ∈ evicted ∨ p.Evicts n id := by
      intro id
      rw [Nat.exists_lt_succ_right, hmem]
    have htaken := (p.effect n).takenOut_cases (p.sound n)
    rcases p.evicted_succ n with ⟨id, hevicts, hnumber⟩ | ⟨hnone, hnumber⟩
    · have hgrown : (p.inspection (n + 1)).takenOut = (p.inspection n).takenOut ++ [id] := by
        rcases htaken with ⟨id', hremoves, hgrown⟩ | ⟨hnone, -⟩
        · obtain rfl : id = id' := hevicts.1.unique hremoves
          exact hgrown
        · exact absurd hevicts.1 (hnone id)
      refine ⟨evicted ++ [id], hgrown ▸ hsub.append_right [id], fun id' => ?_, ?_⟩
      · have hiff : p.Evicts n id' ↔ id' = id :=
          ⟨fun he => he.1.unique hevicts.1, fun he => he ▸ hevicts⟩
        rw [hmem', hiff, List.mem_append, List.mem_singleton]
      · rw [hnumber, hlength, List.length_append, List.length_singleton]
    · have hsub' : (p.inspection n).takenOut.Sublist (p.inspection (n + 1)).takenOut := by
        rcases htaken with ⟨id', -, hgrown⟩ | ⟨-, hsame⟩
        · exact hgrown ▸ List.sublist_append_left ..
        · exact hsame ▸ List.Sublist.refl _
      refine ⟨evicted, hsub.trans hsub', fun id => ?_, hnumber.trans hlength⟩
      rw [hmem']
      exact (or_iff_left (hnone id)).symm

/-! ### Nobody else -/

/-- **Nobody is disconnected by a round** but the connections that it takes out, and nobody is
connected by it. -/
theorem current?_iff (hown : ∀ e, p.move k ≠ .event e) (user : UserId) (id : ConnectionId) :
    (p.inspection (k + 1)).board.current? user = some id ↔
      (p.inspection k).board.current? user = some id ∧ ¬p.Removes k id := by
  have heffect := p.effect k
  have hremoves : p.Removes k id ↔ p.move k = .remove ∧ (p.inspection k).ToRemove id := Iff.rfl
  have hother : p.move k ≠ .remove → ¬p.Removes k id := fun hm hr => hm hr.1
  generalize p.move k = m, p.inspection (k + 1) = i' at heffect hown hremoves hother ⊢
  cases heffect with
  | idle hidle =>
    refine (and_iff_left fun hr => hidle ?_).symm
    obtain ⟨rfl, hnext⟩ := hremoves.1 hr
    exact ⟨id, hnext⟩
  | happened => exact absurd rfl (hown _)
  | @looked id' hnew =>
    have hsame : ((p.inspection k).round.check (p.inspection k).now id'
        (p.inspection k).board).2.current? user = (p.inspection k).board.current? user := by
      rcases (p.inspection k).round.check_cases (p.inspection k).now id' (p.inspection k).board with
        ⟨reason, he⟩ | he <;> rw [he]
      rfl
    rw [hsame]
    exact (and_iff_left (hother (by simp))).symm
  | @removed id' hnext =>
    have hiff : p.Removes k id ↔ id' = id :=
      hremoves.trans ⟨fun hr => Option.some.inj (hnext.1.symm.trans hr.2.1), fun he => he ▸ ⟨rfl, hnext⟩⟩
    dsimp only
    rw [hiff, Switchboard.current?_withdraw]
    split
    · next hcurrent =>
      refine iff_of_false (by simp) fun hthen => hthen.2 ?_
      exact Option.some.inj (hcurrent.2.symm.trans hthen.1)
    · next hnot =>
      refine (and_iff_left_of_imp ?_).symm
      rintro hcurrent rfl
      obtain ⟨c, hc, rfl⟩ := (p.sound k).owned.current user id' hcurrent
      exact hnot ⟨by rw [Switchboard.owner?, hc]; rfl, hcurrent⟩
  | _ => exact (and_iff_left (hother (by simp))).symm

/-- **Nobody is closed by a round** but the connections that it closes. -/
theorem isClosed_iff (hown : ∀ e, p.move k ≠ .event e) (id : ConnectionId) :
    (p.inspection (k + 1)).board.IsClosed id ↔
      (p.inspection k).board.IsClosed id ∨ p.Closes k id := by
  have heffect := p.effect k
  have hcloses : p.Closes k id ↔ p.move k = .close ∧ (p.inspection k).ToClose id := Iff.rfl
  have hother : p.move k ≠ .close → ¬p.Closes k id := fun hm hc => hm hc.1
  have hstays : (p.inspection k).board.IsClosed id → (p.inspection (k + 1)).board.IsClosed id :=
    heffect.isClosed (p.sound k)
  generalize p.move k = m, p.inspection (k + 1) = i' at heffect hown hcloses hother hstays ⊢
  cases heffect with
  | idle hidle =>
    refine (or_iff_left fun hc => hidle ?_).symm
    obtain ⟨rfl, hnext⟩ := hcloses.1 hc
    exact ⟨id, hnext⟩
  | happened => exact absurd rfl (hown _)
  | @looked id' hnew =>
    rw [or_iff_left (hother (by simp))]
    refine ⟨fun hclosed => ?_, hstays⟩
    rcases (p.inspection k).round.check_cases (p.inspection k).now id' (p.inspection k).board with
      ⟨reason, he⟩ | he <;> rw [he] at hclosed
    · exact hclosed
    · exact Round.isClosed_of_probe hclosed
  | @removed id' hnext =>
    rw [or_iff_left (hother (by simp))]
    refine ⟨fun hclosed => hclosed.congr ?_, hstays⟩
    exact ((p.inspection k).board.connections_withdraw id').symm
  | @closed id' hnext =>
    have hknown := (p.sound k).known_of_mem_dead (Inspection.mem_dead_of_next? hnext.1)
    rw [hcloses]
    refine (Switchboard.isClosed_close_iff hknown).trans (or_congr_right ?_)
    exact ⟨fun he => ⟨rfl, he ▸ hnext⟩, fun hc => Option.some.inj (hc.2.1.symm.trans hnext.1)⟩
  | _ => exact (or_iff_left (hother (by simp))).symm

/-- What is closed stays closed. -/
theorem isClosed_mono (hjk : j ≤ k) (hclosed : (p.inspection j).board.IsClosed id) :
    (p.inspection k).board.IsClosed id := by
  induction hjk with
  | refl => exact hclosed
  | step _ ih => exact (p.effect _).isClosed (p.sound _) ih

/-! ### When a round is over -/

/-- **The connections that are closed are those that failed**, when the round is over. -/
theorem closes_iff_fails (hover : (p.inspection n).IsOver) (id : ConnectionId) :
    (∃ k < n, p.Closes k id) ↔ ∃ k < n, p.Looks k id ∧ p.Fails k id := by
  have hshut : (p.inspection n).shut = (p.inspection n).round.dead := by
    unfold Inspection.shut Inspection.victims
    rw [if_pos hover.1, List.take_of_length_le hover.2]
  rw [closes_iff, hshut]
  exact mem_dead_iff hover.1

/-- And each of them is taken out. -/
theorem removes_iff_fails (hover : (p.inspection n).IsOver) (id : ConnectionId) :
    (∃ k < n, p.Removes k id) ↔ ∃ k < n, p.Looks k id ∧ p.Fails k id := by
  have htaken : (p.inspection n).takenOut = (p.inspection n).round.dead := by
    unfold Inspection.takenOut Inspection.victims
    rw [if_pos hover.1, List.take_of_length_le (Nat.le_add_right_of_le hover.2)]
  rw [removes_iff, htaken]
  exact mem_dead_iff hover.1

/-- A round does nothing to a connection that is not one of its own. -/
theorem not_fails_of_not_mem (hid : id ∉ p.ids) : ¬∃ k < n, p.Looks k id ∧ p.Fails k id :=
  fun ⟨_, _, hlook, _⟩ => hid hlook.mem_ids

/-- **A round that is over has taken out exactly those that failed**, and nobody else, in any state
of the switchboard and whatever has happened meanwhile. -/
structure Exact (p : Patrol) (n : Nat) : Prop where
  /-- It has looked at the connections that were current when it began. -/
  looked : ∀ id, (∃ k < n, p.Looks k id) ↔ ∃ user, p.board.current? user = some id
  /-- And once at each of them. -/
  once : ∀ j k id, p.Looks j id → p.Looks k id → j = k
  /-- It has closed those that were silent for too long then, or whose ping was not acknowledged in
  time, and no others. -/
  closed : ∀ id, (∃ k < n, p.Closes k id) ↔
    ∃ k < n, p.Looks k id ∧ (p.Silent k id ∨ ¬p.Acknowledged k id)
  /-- It has taken out the same. -/
  removed : ∀ id, (∃ k < n, p.Removes k id) ↔ ∃ k < n, p.Closes k id
  /-- They are closed. -/
  shut : ∀ id, (∃ k < n, p.Closes k id) → (p.inspection n).board.IsClosed id
  /-- By its own moves nobody was connected, and nobody was disconnected who was not taken out. -/
  current : ∀ k < n, (∀ e, p.move k ≠ .event e) → ∀ user id,
    (p.inspection (k + 1)).board.current? user = some id ↔
      (p.inspection k).board.current? user = some id ∧ ¬p.Removes k id
  /-- Nor was anybody closed but by closing those. -/
  flags : ∀ k < n, (∀ e, p.move k ≠ .event e) → ∀ id,
    (p.inspection (k + 1)).board.IsClosed id ↔ (p.inspection k).board.IsClosed id ∨ p.Closes k id
  /-- Its number is that of the connections that were current when they were taken out. -/
  number : ∃ evicted : List ConnectionId, evicted.Nodup ∧
    (∀ id, id ∈ evicted ↔ ∃ k < n, p.Removes k id ∧
      ∃ user, (p.inspection k).board.current? user = some id) ∧
    (p.inspection n).evicted = evicted.length
  /-- A connection that was not current when the round began keeps its place, and is not closed. -/
  newcomer : ∀ id, (∀ user, p.board.current? user ≠ some id) →
    ∀ k < n, (∀ e, p.move k ≠ .event e) →
      (∀ user, (p.inspection k).board.current? user = some id →
        (p.inspection (k + 1)).board.current? user = some id) ∧
      ((p.inspection (k + 1)).board.IsClosed id → (p.inspection k).board.IsClosed id)

/-- **Every round comes to its end, and then it has taken out exactly those that failed**: from any
moment on its own moves bring it there, when the time of its pings has gone by. -/
theorem exact_evictions (p : Patrol) (n : Nat) :
    (∃ moves : List Inspection.Move, (∀ m ∈ moves, m.IsOwn ∨ m = .wait p.writeWait) ∧
      ((p.inspection n).after moves).IsOver) ∧
    ((p.inspection n).IsOver → p.Exact n) := by
  refine ⟨(p.sound n).exists_isOver, fun hover => ?_⟩
  have hcloses := closes_iff_fails hover
  have hremoves := removes_iff_fails hover
  constructor
  case looked =>
    intro id
    rw [← mem_ids]
    exact ⟨fun ⟨_, _, hlook⟩ => hlook.mem_ids, exists_looks hover.1⟩
  case once => exact fun _ _ _ => Looks.unique
  case closed => exact hcloses
  case removed => exact fun id => (hremoves id).trans (hcloses id).symm
  case shut =>
    rintro id ⟨k, hkn, hclose⟩
    refine isClosed_mono hkn ((isClosed_iff ?_ id).2 (Or.inr hclose))
    rw [hclose.1]
    exact nofun
  case current => exact fun k _ => current?_iff
  case flags => exact fun k _ => isClosed_iff
  case number =>
    obtain ⟨evicted, hsub, hmem, hlength⟩ := p.exists_evicted n
    exact ⟨evicted, ((p.sound n).nodup_victims.sublist (List.take_sublist ..)).sublist hsub, hmem,
      hlength⟩
  case newcomer =>
    intro id hnew k hkn hown
    have hnot : ¬∃ k < n, p.Looks k id ∧ p.Fails k id :=
      not_fails_of_not_mem fun hid => (mem_ids.1 hid).elim hnew
    constructor
    · intro user hcurrent
      refine (current?_iff hown user id).2 ⟨hcurrent, fun hr => ?_⟩
      exact hnot ((hremoves id).1 ⟨k, hkn, hr⟩)
    · intro hclosed
      refine ((isClosed_iff hown id).1 hclosed).resolve_right fun hc => ?_
      exact hnot ((hcloses id).1 ⟨k, hkn, hc⟩)

/-! ### Rounds from the start -/

end Patrol

/-- The switchboard after some events, each at its time. -/
def Switchboard.ofPast (past : List (Nanos × Watch.Event)) : Switchboard :=
  past.foldl (fun h e => e.2.perform e.1 h) .empty

theorem Switchboard.sound_ofPast (past : List (Nanos × Watch.Event)) :
    (Switchboard.ofPast past).Owned ∧ (Switchboard.ofPast past).Ticketed := by
  have hsound : ∀ (past : List (Nanos × Watch.Event)) (h : Switchboard), h.Owned ∧ h.Ticketed →
      (past.foldl (fun h e => e.2.perform e.1 h) h).Owned ∧
        (past.foldl (fun h e => e.2.perform e.1 h) h).Ticketed := by
    intro past
    induction past with
    | nil => exact fun _ hh => hh
    | cons e rest ih =>
      refine fun h hh => ih _ ⟨hh.1.follows (e.2.follows hh.1 e.1), ?_⟩
      exact hh.2.carries (e.2.carries hh.1 hh.2 e.1)
  exact hsound past .empty ⟨Switchboard.owned_empty, Switchboard.ticketed_empty⟩

namespace Patrol

variable {p : Patrol} {j k n : Nat} {id : ConnectionId} {user : UserId}

/-- A round with pings that have five seconds, and clients that may be silent for one minute. -/
def ofMoves (start : Nanos) (past : List (Nanos × Watch.Event)) (moves : List Inspection.Move) :
    Patrol where
  start := start
  writeWait := Limit.probeWrite
  liveness := Limit.liveness
  board := .ofPast past
  owned := (Switchboard.sound_ofPast past).1
  ticketed := (Switchboard.sound_ofPast past).2
  move k := moves.getD k (.wait 0)

/-- Two clients are silent, one does not answer its ping, and one does. The first of them is
connected again while the round waits. -/
def reconnected : Patrol :=
  ofMoves (ofSeconds 61)
    [(0, .arrive 1), (0, .enter 0), (ofSeconds 30, .arrive 2), (ofSeconds 30, .enter 1),
      (ofSeconds 30, .arrive 3), (ofSeconds 30, .enter 2), (0, .arrive 4), (0, .enter 3)]
    [.check 0, .check 1, .check 2, .check 3, .event (.chore (.settle 1 true)), .event (.arrive 1),
      .event (.enter 4), .event (.chore (.close 0)), .wait (ofSeconds 5), .judge 0, .judge 1,
      .judge 2, .judge 3, .remove, .close, .remove, .close, .remove, .close]

/-- The old connection is not counted, and the new one is still there. -/
theorem exact_evictions_reconnected :
    (reconnected.inspection 19).IsOver ∧ (reconnected.inspection 19).evicted = 2 ∧
    (reconnected.inspection 19).board.current? 1 = some 4 ∧
    (reconnected.inspection 19).board.current? 2 = none ∧
    (reconnected.inspection 19).board.current? 3 = some 2 ∧
    (reconnected.inspection 19).board.current? 4 = none ∧ reconnected.Exact 19 := by
  have hover : (reconnected.inspection 19).IsOver := by decide +kernel
  exact ⟨hover, by decide +kernel, by decide +kernel, by decide +kernel, by decide +kernel,
    by decide +kernel, (exact_evictions reconnected 19).2 hover⟩

/-! ### Verdicts that are old -/

/-- A client that is silent stays so as long as nothing comes from it. -/
theorem Silent.later (hsilent : p.Silent k id) (hkn : k ≤ n)
    (hquiet : ∀ j, k ≤ j → j < n → p.move j ≠ .event (.touch id)) : p.Silent n id := by
  induction n, hkn using Nat.le_induction with
  | base => exact hsilent
  | succ n hkn ih =>
    obtain ⟨c, hc, hlong⟩ := ih fun j hkj hjn => hquiet j hkj (Nat.lt_succ_of_lt hjn)
    obtain ⟨c', hc', -, hseen⟩ :=
      (p.carries n).seen hc (hquiet n hkn (Nat.lt_succ_self n))
    refine ⟨c', hc', Nat.lt_of_lt_of_le hlong ?_⟩
    rw [Connection.silence_eq, Connection.silence_eq, hseen]
    exact Nat.sub_le_sub_right (now_le (Nat.le_succ n)) _

/-- **A connection that counts as silent** was so when the round looked at it, and it still is, or
its client has been heard since. -/
theorem silent_or_touched (hmem : (id, .dead .silent) ∈ (p.inspection n).round.candidates) :
    ∃ k < n, p.Looks k id ∧ p.Silent k id ∧
      (p.Silent n id ∨ ∃ j, k ≤ j ∧ j < n ∧ p.move j = .event (.touch id)) := by
  obtain ⟨k, hkn, hlook, hsilent⟩ := p.known n hmem
  refine ⟨k, hkn, hlook, hsilent, ?_⟩
  by_cases htouched : ∃ j, k ≤ j ∧ j < n ∧ p.move j = .event (.touch id)
  · exact Or.inr htouched
  · refine Or.inl (hsilent.later (Nat.le_of_lt hkn) fun j hkj hjn hm => htouched ?_)
    exact ⟨j, hkj, hjn, hm⟩

/-- Whoever is taken out for its silence is silent for too long at that moment. -/
def EvictsOnlySilent (p : Patrol) : Prop :=
  ∀ n id, p.Removes n id → (id, .dead .silent) ∈ (p.inspection n).round.candidates → p.Silent n id

/-- A client is heard again while the round waits for the ping of another one. -/
def belated : Patrol :=
  ofMoves (ofSeconds 61)
    [(0, .arrive 1), (0, .enter 0), (ofSeconds 30, .arrive 2), (ofSeconds 30, .enter 1)]
    [.check 0, .check 1, .event (.touch 0), .wait (ofSeconds 5), .judge 0, .judge 1, .remove]

/-- It is not silent then, as the round has found it. -/
theorem silent_or_touched_belated :
    belated.move 2 = .event (.touch 0) ∧ ∃ k < 6, belated.Looks k 0 ∧ belated.Silent k 0 ∧
      (belated.Silent 6 0 ∨ ∃ j, k ≤ j ∧ j < 6 ∧ belated.move j = .event (.touch 0)) :=
  ⟨by decide +kernel, silent_or_touched (by decide +kernel)⟩

/-- **A connection may be taken out for its silence five seconds after its client was heard.** -/
theorem not_evictsOnlySilent : ¬∀ p : Patrol, p.EvictsOnlySilent := by
  intro hall
  have hremoves : belated.Removes 6 0 := by
    refine ⟨by decide +kernel, ?_⟩
    unfold Inspection.ToRemove
    decide +kernel
  obtain ⟨c, hc, hlong⟩ := hall belated 6 0 hremoves (by decide +kernel)
  have hshort : ∀ c ∈ (belated.inspection 6).board.connection? 0,
      c.silence (belated.inspection 6).now = ofSeconds 5 := by decide +kernel
  rw [hshort c hc] at hlong
  exact absurd hlong (by decide +kernel)

end Patrol

end Rendezvous
