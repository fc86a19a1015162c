import Mathlib.Data.List.Basic
import Rendezvous.Proofs.Switchboard.Queues

/-!
# Signs of life and pings

A connection remembers when something came from its client last, in whole milliseconds since it was
opened. Only a sign of life changes that, and what has come of a ping stays so: whatever else is
done to the switchboard carries both along (`Switchboard.Carries`). There is one lemma for each
thing that can be done to a switchboard, and only that for a sign of life names a connection of
which something was heard (`Switchboard.carries_touch`).

A ping gets the number of the pings that were asked for before, so that its number is not taken
(`Switchboard.Ticketed`).

## Milliseconds

That the milliseconds are whole makes a sign of life seem older than it is, by less than one
millisecond (`Connection.lt_seen_touch`), as long as they can be counted in 64 bits.
-/

namespace Rendezvous

/-! ### When something came last -/

namespace Connection

/-- When something came from the client last, as the connection remembers it. -/
def seen (c : Connection) : Nanos :=
  c.openedAt + ofMillis c.lastSeen

theorem silence_eq (c : Connection) (now : Nanos) : c.silence now = now - c.seen := by
  exact Nat.sub_sub now c.openedAt (ofMillis c.lastSeen)

/-- A connection is silent from its opening on. -/
theorem seen_opened (user : UserId) (now : Nanos) : (opened user now).seen = now := by
  simp [seen, opened, ofMillis]

/-- **A sign of life** seems less than a millisecond old, if the connection is not too old for its
milliseconds to be counted. -/
theorem lt_seen_touch {c : Connection} {now : Nanos}
    (hshort : now - c.openedAt < ofMillis 18446744073709551616) :
    now < (c.touch now).seen + ofMillis 1 := by
  have hmillis : (now - c.openedAt) / 1000000 < 18446744073709551616 := by
    refine Nat.div_lt_of_lt_mul ?_
    rw [Nat.mul_comm]
    exact hshort
  have hstamp : (c.touch now).lastSeen = (now - c.openedAt) / 1000000 := Nat.mod_eq_of_lt hmillis
  have hopened : (c.touch now).openedAt = c.openedAt := rfl
  have hround : ∀ n o : Nat, n < o + (n - o) / 1000000 * 1000000 + 1 * 1000000 := by
    intro n o
    omega
  unfold seen ofMillis
  rw [hstamp, hopened]
  exact hround now c.openedAt

end Connection

namespace Switchboard

variable {h h' h'' : Switchboard} {heard : ConnectionId → Prop} {id : ConnectionId} {t : Nat}

/-! ### Tickets -/

/-- The number of the next ticket is not taken. -/
def Ticketed (h : Switchboard) : Prop :=
  ∀ t state, h.probes.get? t = some state → t < h.probes.size

/-- A ping that did not fail was asked for. -/
theorem Ticketed.lt_size (hticketed : h.Ticketed) (hverdict : h.verdict? t ≠ some false) :
    t < h.probes.size := by
  cases hget : h.probes.get? t with
  | none => exact absurd (by simp [verdict?, hget]) hverdict
  | some state => exact hticketed t state hget

/-! ### What is carried along -/

/-- **Nothing came from a client**, but for those that were heard, and what is known about a ping
is not taken back. -/
structure Carries (heard : ConnectionId → Prop) (h h' : Switchboard) : Prop where
  /-- A connection stays, and it remembers the same sign of life. -/
  connection : ∀ id c, h.connection? id = some c → ∃ c', h'.connection? id = some c' ∧
    c'.openedAt = c.openedAt ∧ (¬heard id → c'.lastSeen = c.lastSeen)
  /-- What has come of a ping stays so. -/
  verdict : ∀ t written, t < h.probes.size → h.verdict? t = some written →
    h'.verdict? t = some written
  /-- A ping that is open was open before, and has the same time. -/
  deadline : ∀ t time, t < h.probes.size → h'.probes.get? t = some (.waiting time) →
    h.probes.get? t = some (.waiting time)
  /-- A ticket was there before, or it has a number that was given out. -/
  ticket : ∀ t state, h'.probes.get? t = some state → t < h'.probes.size ∨
    ∃ state, h.probes.get? t = some state
  /-- Numbers that were given out stay so. -/
  size : h.probes.size ≤ h'.probes.size

theorem Ticketed.carries (hticketed : h.Ticketed) (hc : h.Carries heard h') : h'.Ticketed := by
  intro t state hstate
  rcases hc.ticket t state hstate with hlt | ⟨old, hold⟩
  · exact hlt
  · exact Nat.lt_of_lt_of_le (hticketed t old hold) hc.size

theorem ticketed_empty : empty.Ticketed :=
  fun _ _ hstate => absurd hstate (by simp [empty])

theorem Carries.refl (h : Switchboard) : h.Carries heard h where
  connection _ c hc := ⟨c, hc, rfl, fun _ => rfl⟩
  verdict _ _ _ ht := ht
  deadline _ _ _ ht := ht
  ticket _ state hstate := Or.inr ⟨state, hstate⟩
  size := Nat.le_refl _

theorem Carries.trans (hc : h.Carries heard h') (hc' : h'.Carries heard h'') :
    h.Carries heard h'' where
  connection id c hid := by
    obtain ⟨c', hid', hopened, hseen⟩ := hc.connection id c hid
    obtain ⟨c'', hid'', hopened', hseen'⟩ := hc'.connection id c' hid'
    exact ⟨c'', hid'', hopened'.trans hopened, fun hnot => (hseen' hnot).trans (hseen hnot)⟩
  verdict t written hlt ht :=
    hc'.verdict t written (Nat.lt_of_lt_of_le hlt hc.size) (hc.verdict t written hlt ht)
  deadline t time hlt ht :=
    hc.deadline t time hlt (hc'.deadline t time (Nat.lt_of_lt_of_le hlt hc.size) ht)
  ticket t state hstate := by
    rcases hc'.ticket t state hstate with hlt | ⟨old, hold⟩
    · exact Or.inl hlt
    · exact (hc.ticket t old hold).imp_left fun hlt => Nat.lt_of_lt_of_le hlt hc'.size
  size := Nat.le_trans hc.size hc'.size

theorem Carries.mono {heard' : ConnectionId → Prop} (hc : h.Carries heard h')
    (hheard : ∀ id, heard id → heard' id) : h.Carries heard' h' where
  connection id c hid := by
    obtain ⟨c', hid', hopened, hseen⟩ := hc.connection id c hid
    exact ⟨c', hid', hopened, fun hnot => hseen (mt (hheard id) hnot)⟩
  verdict := hc.verdict
  deadline := hc.deadline
  ticket := hc.ticket
  size := hc.size

/-- A connection of which nothing was heard remembers the same. -/
theorem Carries.seen (hc : h.Carries heard h') {c : Connection} (hid : h.connection? id = some c)
    (hnot : ¬heard id) : ∃ c', h'.connection? id = some c' ∧ c'.openedAt = c.openedAt ∧
      c'.seen = c.seen := by
  obtain ⟨c', hid', hopened, hseen⟩ := hc.connection id c hid
  refine ⟨c', hid', hopened, ?_⟩
  rw [Connection.seen, Connection.seen, hopened, hseen hnot]

/-- Nothing has changed but who is current. -/
theorem carries_of_eq (hconnections : h'.connections = h.connections)
    (hprobes : h'.probes = h.probes) : h.Carries heard h' where
  connection id c hc := ⟨c, by rwa [connection?, hconnections], rfl, fun _ => rfl⟩
  verdict t _ _ ht := by rwa [verdict?, hprobes]
  deadline t _ _ ht := by rwa [hprobes] at ht
  ticket t state hstate := Or.inr ⟨state, by rwa [hprobes] at hstate⟩
  size := Nat.le_of_eq (by rw [hprobes])

/-! ### One connection changed -/

/-- **Changing a connection**, without anything coming from its client unless it was heard. -/
theorem carries_update {f : Connection → Connection}
    (hf : ∀ c, h.connection? id = some c → (f c).openedAt = c.openedAt ∧
      (¬heard id → (f c).lastSeen = c.lastSeen)) : h.Carries heard (h.update id f) where
  connection id' c hc := by
    rw [connection?_update]
    split
    · next he =>
      subst he
      exact ⟨f c, by rw [hc]; rfl, hf c hc⟩
    · exact ⟨c, hc, rfl, fun _ => rfl⟩
  verdict _ _ _ ht := ht
  deadline _ _ _ ht := ht
  ticket _ state hstate := Or.inr ⟨state, hstate⟩
  size := Nat.le_refl _

theorem lastSeen_offer (c : Connection) (frame : Outgoing) :
    (c.offer frame).2.openedAt = c.openedAt ∧ (c.offer frame).2.lastSeen = c.lastSeen := by
  unfold Connection.offer
  split <;> exact ⟨rfl, rfl⟩

theorem lastSeen_close (c : Connection) :
    c.close.openedAt = c.openedAt ∧ c.close.lastSeen = c.lastSeen := by
  unfold Connection.close
  split
  · exact ⟨rfl, rfl⟩
  · exact lastSeen_offer { c with closed := true } .close

/-- A connection with a frame in its queue in the place of the connection. -/
theorem carries_offer {c : Connection} (hc : h.connection? id = some c) (frame : Outgoing) :
    h.Carries heard { h with connections := h.connections.insert id (c.offer frame).2 } := by
  rw [insert_eq_update hc]
  refine carries_update fun c' hc' => ?_
  obtain rfl : c = c' := Option.some.inj (hc.symm.trans hc')
  obtain ⟨hopened, hseen⟩ := lastSeen_offer c frame
  exact ⟨hopened, fun _ => hseen⟩

theorem carries_close (id : ConnectionId) : h.Carries heard (h.close id) :=
  carries_update fun c _ => ⟨(lastSeen_close c).1, fun _ => (lastSeen_close c).2⟩

theorem carries_push (id : ConnectionId) (content : String) :
    h.Carries heard (h.push id content).2 := by
  unfold push
  cases hc : h.connection? id with
  | none => exact .refl h
  | some c => exact carries_offer hc _

theorem carries_take? (id : ConnectionId) : h.Carries heard (((h.take? id).map (·.2)).getD h) := by
  unfold take?
  cases hc : h.connection? id with
  | none => exact .refl h
  | some c =>
    cases hq : c.queue with
    | nil => simpa [Connection.take?, hq] using Carries.refl h
    | cons frame rest =>
      have htake : h.Carries heard (h.update id fun _ => { c with queue := rest }) := by
        refine carries_update fun c' hc' => ?_
        obtain rfl : c = c' := Option.some.inj (hc.symm.trans hc')
        exact ⟨rfl, fun _ => rfl⟩
      rw [← insert_eq_update hc] at htake
      simpa [Connection.take?, hq] using htake

theorem connection?_touch {c : Connection} (hc : h.connection? id = some c) (now : Nanos) :
    (h.touch id now).connection? id = some (c.touch now) := by
  rw [touch, connection?_update, if_pos rfl, hc]
  rfl

/-- **A sign of life** is noted at its connection only. -/
theorem carries_touch (id : ConnectionId) (now : Nanos) : h.Carries (· = id) (h.touch id now) :=
  carries_update fun _ _ => ⟨rfl, fun hnot => absurd rfl hnot⟩

/-! ### Who is current -/

theorem carries_enter (id : ConnectionId) : h.Carries heard (h.enter id).2 := by
  unfold enter
  split
  · exact .refl h
  · exact carries_of_eq rfl rfl

theorem carries_unregister (user : UserId) (id : ConnectionId) :
    h.Carries heard (h.unregister user id).2 := by
  unfold unregister
  split
  · exact carries_of_eq rfl rfl
  · exact .refl h

theorem carries_evict (id : ConnectionId) : h.Carries heard (h.evict id).2 := by
  rcases h.evict_cases id with he | ⟨user, he⟩ <;> rw [he]
  · exact .refl h
  · exact (carries_unregister user id).trans (carries_close id)

/-- A connection that is opened takes the place of no other one. -/
theorem carries_open (hfree : h.connection? h.connections.size = none) (user : UserId)
    (now : Nanos) : h.Carries heard (h.open user now).2 where
  connection id c hc := by
    have hne : id ≠ h.connections.size := by
      rintro rfl
      rw [hfree] at hc
      exact absurd hc (by simp)
    exact ⟨c, by rw [connection?_open, if_neg hne, hc], rfl, fun _ => rfl⟩
  verdict _ _ _ ht := ht
  deadline _ _ _ ht := ht
  ticket _ state hstate := Or.inr ⟨state, hstate⟩
  size := Nat.le_refl _

/-! ### Pings -/

/-- Pings of which something has come now, and no others. -/
theorem carries_mapProbes {f : Nat → ProbeState → ProbeState}
    (hf : ∀ t written, f t (.settled written) = .settled written)
    (hopen : ∀ t time time', f t (.waiting time) = .waiting time' → time = time') :
    h.Carries heard { h with probes := h.probes.mapValues f } where
  connection _ c hc := ⟨c, hc, rfl, fun _ => rfl⟩
  verdict t written _ ht := by
    unfold verdict? at ht ⊢
    rw [Table.get?_mapValues]
    cases hget : h.probes.get? t with
    | none => simpa [hget] using ht
    | some state =>
      cases state with
      | waiting time => simp [hget] at ht
      | settled written' => simpa [hget, hf] using ht
  deadline t time _ ht := by
    rw [Table.get?_mapValues] at ht
    obtain ⟨old, hold, hstate⟩ := Option.map_eq_some_iff.1 ht
    cases old with
    | waiting time' => rwa [← hopen t time' time hstate]
    | settled written => exact absurd ((hf t written).symm.trans hstate) (by simp)
  ticket t state hstate := by
    rw [Table.get?_mapValues] at hstate
    obtain ⟨old, hold, -⟩ := Option.map_eq_some_iff.1 hstate
    exact Or.inr ⟨old, hold⟩
  size := by simp [Table.mapValues, Table.size]

theorem carries_settle (ticket : Nat) (written : Bool) :
    h.Carries heard (h.settle ticket written) := by
  refine carries_mapProbes ?_ ?_
  · intro t written'
    dsimp only
    split <;> rfl
  · intro t time time' hstate
    split at hstate
    · exact absurd hstate nofun
    · exact ProbeState.waiting.inj hstate

theorem carries_expire (now : Nanos) : h.Carries heard (h.expire now) := by
  refine carries_mapProbes (fun _ _ => rfl) ?_
  intro t time time' hstate
  dsimp only at hstate
  split at hstate
  · exact absurd hstate nofun
  · exact ProbeState.waiting.inj hstate

theorem carries_abandon (id : ConnectionId) : h.Carries heard (h.abandon id) := by
  refine abandon_induction .refl (fun _ _ _ => .trans) ?_ (fun _ t => carries_settle t false) h id
  intro h id
  exact carries_update fun _ _ => ⟨rfl, fun _ => rfl⟩

/-- The ticket of a ping that is asked for. -/
theorem get?_probe (h : Switchboard) (id : ConnectionId) (now wait : Nanos) :
    ∃ state, ∀ t, (h.probe id now wait).2.probes.get? t =
      if t = h.probes.size then some state else h.probes.get? t :=
  ⟨_, fun _ => Table.get?_insert ..⟩

/-- There is one ping more. -/
theorem size_probe (hticketed : h.Ticketed) (id : ConnectionId) (now wait : Nanos) :
    (h.probe id now wait).2.probes.size = h.probes.size + 1 := by
  have hnot : ¬h.probes.contains h.probes.size = true := by
    intro hcontains
    obtain ⟨state, hstate⟩ := Option.isSome_iff_exists.1 hcontains
    exact Nat.lt_irrefl _ (hticketed _ state hstate)
  have hentries : ∀ state, (h.probes.insert h.probes.size state).size = h.probes.size + 1 := by
    intro state
    unfold Table.size at hnot ⊢
    simp only [Table.insert, dif_neg hnot, List.length_append, List.length_singleton]
  exact hentries _

/-- **Asking for a ping** gives out a number that was not taken. -/
theorem carries_probe (hticketed : h.Ticketed) (id : ConnectionId) (now wait : Nanos) :
    h.Carries heard (h.probe id now wait).2 := by
  obtain ⟨state, hget⟩ := h.get?_probe id now wait
  have hsize := size_probe hticketed id now wait
  constructor
  case connection =>
    intro id' c hc
    unfold probe
    cases hid : h.connection? id with
    | none => exact ⟨c, hc, rfl, fun _ => rfl⟩
    | some c₀ =>
      have hoffer : h.Carries heard { h with connections := h.connections.insert id _ } :=
        carries_offer hid (.probe h.probes.size)
      exact hoffer.connection id' c hc
  case verdict =>
    intro t written hlt ht
    unfold verdict? at ht ⊢
    rw [hget, if_neg (Nat.ne_of_lt hlt)]
    exact ht
  case deadline =>
    intro t time hlt ht
    rwa [hget, if_neg (Nat.ne_of_lt hlt)] at ht
  case ticket =>
    intro t state' hstate
    rw [hget] at hstate
    split at hstate
    · next he => exact Or.inl (by rw [hsize, he]; exact Nat.lt_succ_self _)
    · exact Or.inr ⟨state', hstate⟩
  case size => exact hsize ▸ Nat.le_succ _

/-- A ping that the queue takes is open. -/
theorem verdict?_probe {c : Connection} (hc : h.connection? id = some c) (hroom : c.hasRoom = true)
    {now wait : Nanos} (hwait : 0 < wait) :
    (h.probe id now wait).2.verdict? (h.probe id now wait).1 = none := by
  unfold verdict? probe
  simp [hc, Connection.offer, hroom, hwait]

/-- A ping that is open has the time that was given to it. -/
theorem deadline_probe {now wait time : Nanos}
    (hopen : (h.probe id now wait).2.probes.get? h.probes.size = some (.waiting time)) :
    time = now + wait := by
  have hself := Option.some.inj ((Table.get?_insert_self ..).symm.trans hopen)
  have htime : ∀ taken : Bool, (if taken then ProbeState.waiting (now + wait)
      else .settled false) = .waiting time → time = now + wait := by
    intro taken hstate
    cases taken with
    | true => exact (ProbeState.waiting.inj hstate).symm
    | false => exact absurd hstate nofun
  exact htime _ hself

/-- Another ping does not change what is known about a ping. -/
theorem get?_probe_of_lt (hlt : t < h.probes.size) (id : ConnectionId) (now wait : Nanos) :
    (h.probe id now wait).2.probes.get? t = h.probes.get? t := by
  obtain ⟨state, hget⟩ := h.get?_probe id now wait
  rw [hget, if_neg (Nat.ne_of_lt hlt)]

/-- A ping of one connection does nothing to the others. -/
theorem connection?_probe_of_ne {id' : ConnectionId} (hne : id' ≠ id) (now wait : Nanos) :
    (h.probe id now wait).2.connection? id' = h.connection? id' := by
  unfold probe
  cases hc : h.connection? id with
  | none => rfl
  | some c => exact Table.get?_insert_of_ne _ _ hne

end Switchboard

end Rendezvous
