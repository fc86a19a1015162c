import Mathlib.Data.List.Basic
import Rendezvous.Proofs.Switchboard.Succession

/-!
# Who comes and who goes

Most of what is done to the switchboard has nothing to do with who is connected: frames are put into
the queues and taken out, signs of life are noted, pings are asked for and settled, connections are
closed. In one way only does somebody come in, when a connection enters; somebody goes when a
connection is taken out, and then it is that connection and no other.

`Switchboard.Keeps` says of two states of the switchboard that nobody comes in between them, and
that only some may go; there is one lemma for each thing that can be done to a switchboard. A
connection that is closed stays closed in any case.
-/

namespace Rendezvous.Switchboard

variable {h h' h'' : Switchboard} {gone : ConnectionId → Prop} {user : UserId} {id : ConnectionId}

/-- **The connections last**: there are the same ones, and what is closed stays closed. -/
structure Lasts (h h' : Switchboard) : Prop where
  /-- There are the same connections, and they belong to the same users. -/
  owner : ∀ id, h'.owner? id = h.owner? id
  /-- What is closed stays closed. -/
  closed : ∀ id, h.IsClosed id → h'.IsClosed id
  /-- There are as many connections. -/
  size : h'.connections.size = h.connections.size

theorem Lasts.trans (hl : h.Lasts h') (hl' : h'.Lasts h'') : h.Lasts h'' where
  owner id := (hl'.owner id).trans (hl.owner id)
  closed id hid := hl'.closed id (hl.closed id hid)
  size := hl'.size.trans hl.size

theorem lasts_of_eq (hconnections : h'.connections = h.connections) : h.Lasts h' where
  owner id := owner?_congr hconnections id
  closed _ hid := hid.congr hconnections
  size := by rw [hconnections]

/-- **Nobody comes in, and only some go.** -/
structure Keeps (gone : ConnectionId → Prop) (h h' : Switchboard) : Prop extends Lasts h h' where
  /-- Who is current was current before. -/
  current : ∀ user id, h'.current? user = some id → h.current? user = some id
  /-- Who was current is still, but for those who may go. -/
  stays : ∀ user id, h.current? user = some id → ¬gone id → h'.current? user = some id

theorem Keeps.refl (h : Switchboard) : h.Keeps gone h where
  toLasts := lasts_of_eq rfl
  current _ _ hid := hid
  stays _ _ hid _ := hid

theorem Keeps.trans (hk : h.Keeps gone h') (hk' : h'.Keeps gone h'') : h.Keeps gone h'' where
  toLasts := hk.toLasts.trans hk'.toLasts
  current user id hid := hk.current user id (hk'.current user id hid)
  stays user id hid hgone := hk'.stays user id (hk.stays user id hid hgone) hgone

theorem Keeps.mono {gone' : ConnectionId → Prop} (hk : h.Keeps gone h')
    (hgone : ∀ id, gone id → gone' id) : h.Keeps gone' h' :=
  { hk with stays := fun user id hid hnot => hk.stays user id hid (mt (hgone id) hnot) }

/-! ### Nobody comes and nobody goes -/

/-- Nothing of the connections and of who is current has changed. -/
theorem keeps_of_eq (hconnections : h'.connections = h.connections)
    (hcurrent : h'.current = h.current) : h.Keeps gone h' where
  toLasts := lasts_of_eq hconnections
  current user id hid := by simpa only [current?, hcurrent] using hid
  stays user id hid _ := by simpa only [current?, hcurrent] using hid

/-- **Changing a connection**, without giving it to somebody else or opening it again. -/
theorem keeps_update {f : Connection → Connection}
    (hf : ∀ c, h.connection? id = some c → (f c).user = c.user ∧
      (c.closed = true → (f c).closed = true)) : h.Keeps gone (h.update id f) where
  current _ _ hid := hid
  stays _ _ hid _ := hid
  owner id' := by
    unfold owner?
    rw [connection?_update]
    split
    · next he =>
      subst he
      cases hc : h.connection? id' with
      | none => rfl
      | some c => exact congrArg some (hf c hc).1
    · rfl
  closed id' hid' := by
    obtain ⟨c, hc, hclosed⟩ := hid'
    unfold IsClosed
    rw [connection?_update]
    split
    · next he => exact ⟨f c, by rw [hc]; rfl, (hf c (he ▸ hc)).2 hclosed⟩
    · exact ⟨c, hc, hclosed⟩
  size := by simp [update, Table.modify, Table.mapValues, Table.size]

theorem closed_offer (c : Connection) (frame : Outgoing) :
    (c.offer frame).2.user = c.user ∧ (c.offer frame).2.closed = c.closed := by
  unfold Connection.offer
  split <;> exact ⟨rfl, rfl⟩

theorem keeps_close (id : ConnectionId) : h.Keeps gone (h.close id) :=
  keeps_update fun c _ => ⟨(tame_close (p := fun _ => True) c).1, fun _ => c.closed_close⟩

theorem keeps_touch (id : ConnectionId) (now : Nanos) : h.Keeps gone (h.touch id now) :=
  keeps_update fun _ _ => ⟨rfl, fun hclosed => hclosed⟩

theorem keeps_settle (ticket : Nat) (written : Bool) : h.Keeps gone (h.settle ticket written) :=
  keeps_of_eq rfl rfl

theorem keeps_expire (now : Nanos) : h.Keeps gone (h.expire now) :=
  keeps_of_eq rfl rfl

/-- A connection with a frame in its queue in the place of the connection. -/
theorem keeps_offer {c : Connection} (hc : h.connection? id = some c) (frame : Outgoing) :
    h.Keeps gone { h with connections := h.connections.insert id (c.offer frame).2 } := by
  rw [insert_eq_update hc]
  refine keeps_update fun c' hc' => ?_
  obtain rfl : c = c' := Option.some.inj (hc.symm.trans hc')
  obtain ⟨huser, hclosed⟩ := closed_offer c frame
  exact ⟨huser, hclosed.trans⟩

theorem keeps_push (id : ConnectionId) (content : String) :
    h.Keeps gone (h.push id content).2 := by
  unfold push
  cases hc : h.connection? id with
  | none => exact .refl h
  | some c => exact keeps_offer hc _

theorem keeps_send (user : UserId) (notice : Notice) : h.Keeps gone (h.send user notice).2 := by
  unfold send pushText
  cases h.current? user with
  | none => exact .refl h
  | some id => exact keeps_push id _

theorem keeps_probe (id : ConnectionId) (now wait : Nanos) :
    h.Keeps gone (h.probe id now wait).2 := by
  unfold probe
  cases hc : h.connection? id with
  | none => exact keeps_of_eq rfl rfl
  | some c =>
    have hoffer : h.Keeps gone { h with connections := h.connections.insert id _ } :=
      keeps_offer hc (.probe h.probes.size)
    exact hoffer.trans (keeps_of_eq rfl rfl)

theorem keeps_take? {frame : Outgoing} (htake : h.take? id = some (frame, h')) :
    h.Keeps gone h' := by
  unfold take? at htake
  cases hc : h.connection? id with
  | none => simp [hc] at htake
  | some c =>
    cases hq : c.queue with
    | nil => simp [hc, Connection.take?, hq] at htake
    | cons first rest =>
      simp only [hc, Option.bind_some, Connection.take?, hq, Option.some.injEq, Prod.mk.injEq]
        at htake
      obtain ⟨-, rfl⟩ := htake
      rw [insert_eq_update hc]
      refine keeps_update fun c' hc' => ?_
      obtain rfl : c = c' := Option.some.inj (hc.symm.trans hc')
      exact ⟨rfl, fun hclosed => hclosed⟩

theorem keeps_abandon (id : ConnectionId) : h.Keeps gone (h.abandon id) := by
  refine abandon_induction .refl (fun _ _ _ => .trans) ?_ (fun _ t => keeps_settle t false) h id
  intro h id
  exact keeps_update fun _ _ => ⟨rfl, fun hclosed => hclosed⟩

/-! ### Somebody goes -/

/-- **Taking a connection out** touches no other one. -/
theorem keeps_unregister (user : UserId) (id : ConnectionId) :
    h.Keeps (· = id) (h.unregister user id).2 where
  current user' id' hid' := by
    rw [current?_unregister] at hid'
    split at hid'
    · exact absurd hid' (by simp)
    · exact hid'
  stays user' id' hid' hne := by
    rw [current?_unregister, if_neg]
    · exact hid'
    · rintro ⟨rfl, hcur⟩
      exact hne (Option.some.inj (hid'.symm.trans hcur))
  toLasts := lasts_of_eq (h.connections_unregister user id)

theorem keeps_evict (id : ConnectionId) : h.Keeps (· = id) (h.evict id).2 := by
  rcases h.evict_cases id with he | ⟨user, he⟩ <;> rw [he]
  · exact .refl h
  · exact (keeps_unregister user id).trans (keeps_close id)

/-- A connection that is evicted is closed. -/
theorem isClosed_evict (howner : h.owner? id = some user) : (h.evict id).2.IsClosed id := by
  obtain ⟨c, hc, -⟩ := Option.map_eq_some_iff.1 howner
  have hleft := (owner?_congr (h.connections_unregister c.user id) id).trans howner
  unfold evict
  simpa only [hc] using isClosed_close hleft

/-! ### Somebody comes -/

theorem lasts_enter (id : ConnectionId) : h.Lasts (h.enter id).2 :=
  lasts_of_eq (h.connections_enter id)

theorem owner?_open (h : Switchboard) (user : UserId) (now : Nanos) (id : ConnectionId) :
    (h.open user now).2.owner? id =
      if id = h.connections.size then some user else h.owner? id := by
  unfold owner?
  rw [connection?_open]
  split <;> rfl

/-- A connection that is opened takes the place of no other one. -/
theorem IsClosed.open (hclosed : h.IsClosed id) (hfree : h.owner? h.connections.size = none)
    (user : UserId) (now : Nanos) : (h.open user now).2.IsClosed id := by
  obtain ⟨c, hc, hflag⟩ := hclosed
  have hne : id ≠ h.connections.size := by
    rintro rfl
    simp [owner?, hc] at hfree
  exact ⟨c, by rw [connection?_open, if_neg hne, hc], hflag⟩

end Rendezvous.Switchboard
