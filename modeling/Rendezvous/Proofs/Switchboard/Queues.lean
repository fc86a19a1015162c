import Rendezvous.Switchboard.Registry

/-!
# Whose connections there are, and what waits in their queues

A connection belongs to one user for as long as its number is known, and the switchboard names as
the current connection of a user only one of this user's own (`Switchboard.Owned`). A text comes
into a queue in one way, by being pushed: whatever else is done to the switchboard may take texts
out, but puts none in.

Both facts are of the same kind, so that they are shown together. `Switchboard.Follows` says of two
states of the switchboard that the second one may come right after the first, with no more texts in
its queues than those that are allowed; there is one lemma for each thing that can be done to a
switchboard, and only that for a push allows a text (`Switchboard.follows_push`).

A notice for a user is such a text, for the user's current connection. It is the last thing in the
queue then, or it is dropped, and nobody else gets anything (`Switchboard.putTo_push`,
`Switchboard.givenTo_send`).
-/

namespace Rendezvous.Switchboard

variable {h h' : Switchboard} {new : ConnectionId → String → Prop}

/-- **The connections belong to their users**: a user's current connection is one of the user's own,
and the next number is not taken. -/
structure Owned (h : Switchboard) : Prop where
  /-- The current connection of a user is one of the user's own. -/
  current : ∀ user id, h.current? user = some id →
    ∃ c, h.connection? id = some c ∧ c.user = user
  /-- A connection has a number that was given out. -/
  fresh : ∀ id c, h.connection? id = some c → id < h.connections.size

theorem owned_empty : empty.Owned where
  current user id h := absurd h (by simp [empty, current?])
  fresh id c h := absurd h (by simp [empty, connection?])

/-- **One state of the switchboard right after another**, with `new` texts in the queues. -/
structure Follows (new : ConnectionId → String → Prop) (h h' : Switchboard) : Prop where
  /-- A connection stays and belongs to the same user. -/
  user : ∀ id c, h.connection? id = some c → ∃ c', h'.connection? id = some c' ∧ c'.user = c.user
  /-- A text in a queue was there before, or is new. -/
  text : ∀ id c' s, h'.connection? id = some c' → .text s ∈ c'.queue →
    (∃ c, h.connection? id = some c ∧ .text s ∈ c.queue) ∨ new id s
  /-- A connection that has become current belongs to the user. -/
  current : ∀ user id, h'.current? user = some id → h.current? user = some id ∨
    ∃ c', h'.connection? id = some c' ∧ c'.user = user
  /-- A connection that was not there before has a number that was given out. -/
  fresh : ∀ id c', h'.connection? id = some c' →
    id < h'.connections.size ∨ ∃ c, h.connection? id = some c
  /-- Numbers that were given out stay so. -/
  size : h.connections.size ≤ h'.connections.size

theorem Owned.follows (hown : h.Owned) (hf : h.Follows new h') : h'.Owned where
  current user id hid := by
    rcases hf.current user id hid with hold | hnew
    · obtain ⟨c, hc, huser⟩ := hown.current user id hold
      obtain ⟨c', hc', huser'⟩ := hf.user id c hc
      exact ⟨c', hc', huser'.trans huser⟩
    · exact hnew
  fresh id c' hc' := by
    rcases hf.fresh id c' hc' with hlt | ⟨c, hc⟩
    · exact hlt
    · exact Nat.lt_of_lt_of_le (hown.fresh id c hc) hf.size

theorem Follows.refl (h : Switchboard) : h.Follows new h where
  user _ c hc := ⟨c, hc, rfl⟩
  text _ c _ hc hs := Or.inl ⟨c, hc, hs⟩
  current _ _ hid := Or.inl hid
  fresh _ c hc := Or.inr ⟨c, hc⟩
  size := Nat.le_refl _

theorem Follows.mono {new' : ConnectionId → String → Prop} (hf : h.Follows new h')
    (hnew : ∀ id s, new id s → new' id s) : h.Follows new' h' :=
  { hf with text := fun id c' s hc' hs => (hf.text id c' s hc' hs).imp_right (hnew id s) }

theorem Follows.trans {h'' : Switchboard} (hf : h.Follows new h') (hf' : h'.Follows new h'') :
    h.Follows new h'' where
  user id c hc := by
    obtain ⟨c', hc', huser⟩ := hf.user id c hc
    obtain ⟨c'', hc'', huser'⟩ := hf'.user id c' hc'
    exact ⟨c'', hc'', huser'.trans huser⟩
  text id c'' s hc'' hs := by
    rcases hf'.text id c'' s hc'' hs with ⟨c', hc', hs'⟩ | hnew
    · exact hf.text id c' s hc' hs'
    · exact Or.inr hnew
  current user id hid := by
    rcases hf'.current user id hid with hid' | hnew
    · rcases hf.current user id hid' with hold | ⟨c', hc', huser⟩
      · exact Or.inl hold
      · obtain ⟨c'', hc'', huser'⟩ := hf'.user id c' hc'
        exact Or.inr ⟨c'', hc'', huser'.trans huser⟩
    · exact Or.inr hnew
  fresh id c'' hc'' := by
    rcases hf'.fresh id c'' hc'' with hlt | ⟨c', hc'⟩
    · exact Or.inl hlt
    · rcases hf.fresh id c' hc' with hlt | hold
      · exact Or.inl (Nat.lt_of_lt_of_le hlt hf'.size)
      · exact Or.inr hold
  size := Nat.le_trans hf.size hf'.size

/-! ### One connection changed -/

/-- What may be done to a connection: it belongs to the same user, and the texts in its queue were
there before or are new. -/
def Tame (new : String → Prop) (c c' : Connection) : Prop :=
  c'.user = c.user ∧ ∀ s, .text s ∈ c'.queue → .text s ∈ c.queue ∨ new s

theorem connection?_update (h : Switchboard) (id id' : ConnectionId) (f : Connection → Connection) :
    (h.update id f).connection? id' =
      if id' = id then (h.connection? id').map f else h.connection? id' := by
  unfold update connection?
  split
  · next he => rw [he, Table.get?_modify_self]
  · next he => exact Table.get?_modify_of_ne _ _ he

/-- **Changing a connection**, if what is done to it is tame. -/
theorem follows_update {id : ConnectionId} {f : Connection → Connection}
    (hf : ∀ c, h.connection? id = some c → Tame (new id) c (f c)) : h.Follows new (h.update id f) where
  user id' c hc := by
    rw [connection?_update]
    split
    · next he => exact ⟨f c, by rw [hc]; rfl, (hf c (he ▸ hc)).1⟩
    · exact ⟨c, hc, rfl⟩
  text id' c' s hc' hs := by
    rw [connection?_update] at hc'
    split at hc'
    · next he =>
      obtain ⟨c, hc, rfl⟩ := Option.map_eq_some_iff.1 hc'
      rcases (hf c (he ▸ hc)).2 s hs with hold | hnew
      · exact Or.inl ⟨c, hc, hold⟩
      · exact Or.inr (he ▸ hnew)
    · exact Or.inl ⟨c', hc', hs⟩
  current _ _ hid := Or.inl hid
  fresh id' c' hc' := by
    rw [connection?_update] at hc'
    split at hc'
    · obtain ⟨c, hc, -⟩ := Option.map_eq_some_iff.1 hc'
      exact Or.inr ⟨c, hc⟩
    · exact Or.inr ⟨c', hc'⟩
  size := by simp [update, Table.modify, Table.mapValues, Table.size]

/-- Putting a connection in the place of another one is changing it. -/
theorem insert_eq_update {id : ConnectionId} {c : Connection} (hc : h.connection? id = some c)
    (c' : Connection) :
    { h with connections := h.connections.insert id c' } = h.update id fun _ => c' := by
  have hcontains : h.connections.contains id = true := by
    unfold connection? at hc
    simp [Table.contains, hc]
  unfold update
  rw [Table.insert, dif_pos hcontains]

/-- Frames offered to a queue are no texts, but for those that are new. -/
theorem tame_offer {p : String → Prop} (c : Connection) {frame : Outgoing}
    (hframe : ∀ s, frame = .text s → p s ∨ ¬c.hasRoom) : Tame p c (c.offer frame).2 := by
  unfold Connection.offer
  split
  · next hroom =>
    refine ⟨rfl, fun s hs => ?_⟩
    rcases List.mem_append.1 hs with hs | hs
    · exact Or.inl hs
    · have he : Outgoing.text s = frame := by simpa using hs
      exact Or.inr ((hframe s he.symm).resolve_right (not_not_intro hroom))
  · exact ⟨rfl, fun _ hs => Or.inl hs⟩

theorem tame_close {p : String → Prop} (c : Connection) : Tame p c c.close := by
  unfold Connection.close
  split
  · exact ⟨rfl, fun _ hs => Or.inl hs⟩
  · exact tame_offer { c with closed := true } fun _ he => absurd he (by simp)

/-! ### What is done to the switchboard -/

/-- Nothing of the connections and of who is current has changed. -/
theorem follows_of_eq (hconnections : h'.connections = h.connections)
    (hcurrent : h'.current = h.current) : h.Follows new h' := by
  have hf : h.Follows new h := .refl h
  constructor
  case user => simpa only [connection?, hconnections] using hf.user
  case text => simpa only [connection?, hconnections] using hf.text
  case current => exact fun user id hid => Or.inl (by simpa only [current?, hcurrent] using hid)
  case fresh => simpa only [connection?, hconnections] using hf.fresh
  case size => exact Nat.le_of_eq (by rw [hconnections])

theorem follows_close (id : ConnectionId) : h.Follows new (h.close id) :=
  follows_update fun c _ => tame_close c

theorem follows_touch (id : ConnectionId) (now : Nanos) : h.Follows new (h.touch id now) :=
  follows_update fun _ _ => ⟨rfl, fun _ hs => Or.inl hs⟩

theorem follows_settle (ticket : Nat) (written : Bool) : h.Follows new (h.settle ticket written) :=
  follows_of_eq rfl rfl

theorem follows_expire (now : Nanos) : h.Follows new (h.expire now) :=
  follows_of_eq rfl rfl

/-- Taking somebody out. -/
theorem follows_unregister (user : UserId) (id : ConnectionId) :
    h.Follows new (h.unregister user id).2 := by
  unfold unregister
  split
  · refine { Follows.refl h with current := fun user' id' hid => Or.inl ?_ }
    by_cases he : user' = user
    · subst he
      exact absurd hid (by simp [current?])
    · simpa [current?, Table.get?_erase_of_ne _ he] using hid
  · exact .refl h

/-- **An eviction** takes the connection out and closes it. -/
theorem evict_cases (h : Switchboard) (id : ConnectionId) :
    (h.evict id).2 = h ∨ ∃ user, (h.evict id).2 = (h.unregister user id).2.close id := by
  unfold evict
  cases h.connection? id with
  | none => exact Or.inl rfl
  | some c => exact Or.inr ⟨c.user, rfl⟩

theorem follows_evict (id : ConnectionId) : h.Follows new (h.evict id).2 := by
  rcases h.evict_cases id with he | ⟨user, he⟩ <;> rw [he]
  · exact .refl h
  · exact (follows_unregister user id).trans (follows_close id)

/-- A connection becomes the current one of its user. -/
theorem follows_enter (id : ConnectionId) : h.Follows new (h.enter id).2 := by
  unfold enter
  split
  · exact .refl h
  · next c hc =>
    refine { Follows.refl h with current := fun user' id' hid => ?_ }
    by_cases he : user' = c.user
    · subst he
      obtain rfl : id = id' := by simpa [current?] using hid
      exact Or.inr ⟨c, hc, rfl⟩
    · exact Or.inl (by simpa [current?, Table.get?_insert_of_ne _ _ he] using hid)

theorem follows_probe (id : ConnectionId) (now wait : Nanos) :
    h.Follows new (h.probe id now wait).2 := by
  unfold probe
  cases hc : h.connection? id with
  | none => exact follows_of_eq rfl rfl
  | some c =>
    have hoffer : h.Follows new (h.update id fun _ => (c.offer (.probe h.probes.size)).2) := by
      refine follows_update fun c' hc' => ?_
      obtain rfl : c = c' := Option.some.inj (hc.symm.trans hc')
      exact tame_offer c fun _ he => absurd he (by simp)
    rw [← insert_eq_update hc] at hoffer
    exact hoffer.trans (follows_of_eq rfl rfl)

theorem follows_take? (id : ConnectionId) : h.Follows new (((h.take? id).map (·.2)).getD h) := by
  unfold take?
  cases hc : h.connection? id with
  | none => exact .refl h
  | some c =>
    cases hq : c.queue with
    | nil => simpa [Connection.take?, hq] using Follows.refl h
    | cons frame rest =>
      have htake : h.Follows new (h.update id fun _ => { c with queue := rest }) := by
        refine follows_update fun c' hc' => ⟨?_, fun s hs => Or.inl ?_⟩
        all_goals obtain rfl : c = c' := Option.some.inj (hc.symm.trans hc')
        · rfl
        · rw [hq]
          exact List.mem_cons_of_mem _ hs
      rw [← insert_eq_update hc] at htake
      simpa [Connection.take?, hq] using htake

/-- **When a writer is gone**, its queue is emptied and the pings that were in it are settled one by
one. -/
theorem abandon_induction {p : Switchboard → Switchboard → Prop} (hrefl : ∀ h, p h h)
    (htrans : ∀ h h' h'', p h h' → p h' h'' → p h h'')
    (hgone : ∀ h id, p h (h.update id Connection.abandon))
    (hsettle : ∀ h ticket, p h (h.settle ticket false)) (h : Switchboard) (id : ConnectionId) :
    p h (h.abandon id) := by
  have hsettled : ∀ (tickets : List Nat) (h : Switchboard),
      p h (tickets.foldl (fun h ticket => h.settle ticket false) h) := by
    intro tickets
    induction tickets with
    | nil => exact hrefl
    | cons ticket rest ih => exact fun h => htrans _ _ _ (hsettle h ticket) (ih _)
  unfold abandon
  cases h.connection? id with
  | none => exact hrefl h
  | some c => exact htrans _ _ _ (hgone h id) (hsettled _ _)

theorem follows_abandon (id : ConnectionId) : h.Follows new (h.abandon id) := by
  refine abandon_induction .refl (fun _ _ _ => .trans) ?_ (fun _ t => follows_settle t false) h id
  intro h id
  exact follows_update fun _ _ => ⟨rfl, fun _ hs => absurd hs (by simp [Connection.abandon])⟩

/-- **A text that is pushed** is the only one that is new, and only if the queue took it. -/
theorem follows_push (id : ConnectionId) (content : String) :
    h.Follows (fun id' s => id' = id ∧ s = content ∧ (h.push id content).1 = true)
      (h.push id content).2 := by
  unfold push
  cases hc : h.connection? id with
  | none => exact .refl h
  | some c =>
    change Follows _ h { h with connections := h.connections.insert id (c.push content).2 }
    rw [insert_eq_update hc]
    refine follows_update fun c' hc' => ?_
    obtain rfl : c = c' := Option.some.inj (hc.symm.trans hc')
    refine tame_offer c fun s hs => ?_
    obtain rfl : content = s := Outgoing.text.inj hs
    cases hroom : c.hasRoom with
    | false => exact Or.inr (by simp)
    | true => exact Or.inl ⟨rfl, rfl, by simp [Connection.push, Connection.offer, hroom]⟩

/-- A text that the queue took is in it. -/
theorem mem_queue_push {id : ConnectionId} {content : String} (htaken : (h.push id content).1 = true) :
    ∃ c, (h.push id content).2.connection? id = some c ∧ .text content ∈ c.queue := by
  unfold push at htaken ⊢
  cases hc : h.connection? id with
  | none => simp [hc] at htaken
  | some c =>
    have hroom : c.hasRoom = true := by
      simp only [hc, Connection.push, Connection.offer] at htaken
      split at htaken
      · assumption
      · exact absurd htaken (by simp)
    refine ⟨{ c with queue := c.queue ++ [.text content] }, ?_, by simp⟩
    simp [connection?, Connection.push, Connection.offer, hroom]

theorem connection?_push {id : ConnectionId} {c : Connection} (hc : h.connection? id = some c)
    (content : String) :
    (h.push id content).1 = (c.push content).1 ∧
      (h.push id content).2.connection? id = some (c.push content).2 := by
  unfold push
  rw [hc]
  exact ⟨rfl, Table.get?_insert_self ..⟩

/-- A text for one connection is not seen by the others. -/
theorem connection?_push_of_ne {id id' : ConnectionId} (hne : id' ≠ id) (content : String) :
    (h.push id content).2.connection? id' = h.connection? id' := by
  unfold push
  cases h.connection? id with
  | none => rfl
  | some c => exact Table.get?_insert_of_ne _ _ hne

/-- **A notice was put into the queue of a connection**, if there is one, and nothing else was done. -/
structure PutTo (target : Option ConnectionId) (notice : Notice) (h h' : Switchboard) : Prop where
  /-- It is the last thing that waits for the connection, if there is room. -/
  taken : ∀ id c, target = some id → h.connection? id = some c → c.hasRoom = true →
    h'.connection? id = some { c with queue := c.queue ++ [.text notice.encode] }
  /-- Without room it is dropped. -/
  dropped : ∀ id c, target = some id → h.connection? id = some c → c.hasRoom = false →
    h'.connection? id = some c
  /-- No other connection is touched. -/
  others : ∀ id, target ≠ some id → h'.connection? id = h.connection? id
  /-- The same users are connected, and by the same connections. -/
  current : h'.current = h.current
  /-- No ping is asked for, and none is settled. -/
  probes : h'.probes = h.probes

theorem putTo_none (h : Switchboard) (notice : Notice) : h.PutTo none notice h where
  taken _ _ htarget := absurd htarget nofun
  dropped _ _ htarget := absurd htarget nofun
  others _ _ := rfl
  current := rfl
  probes := rfl

/-- **A push puts a notice into the queue** of its connection. -/
theorem putTo_push (h : Switchboard) (id : ConnectionId) (notice : Notice) :
    h.PutTo (some id) notice (h.push id notice.encode).2 := by
  have hoffer : ∀ id' c, some id = some id' → h.connection? id' = some c →
      (h.push id notice.encode).2.connection? id' = some (c.offer (.text notice.encode)).2 := by
    intro id' c htarget hc
    obtain rfl : id = id' := Option.some.inj htarget
    exact (connection?_push hc notice.encode).2
  constructor
  case taken =>
    intro id' c htarget hc hroom
    rw [hoffer id' c htarget hc, Connection.offer, if_pos hroom]
  case dropped =>
    intro id' c htarget hc hroom
    rw [hoffer id' c htarget hc, Connection.offer, if_neg (by simp [hroom])]
  case others =>
    intro id' hne
    exact connection?_push_of_ne (fun he => hne (congrArg some he.symm)) notice.encode
  case current =>
    unfold push
    split <;> rfl
  case probes =>
    unfold push
    split <;> rfl

/-- **A notice was given to a user**: it was put into the queue of the user's connection. -/
def GivenTo (user : UserId) (notice : Notice) (h h' : Switchboard) : Prop :=
  h.PutTo (h.current? user) notice h'

/-- **Sending a notice gives it to the user.** -/
theorem givenTo_send (h : Switchboard) (user : UserId) (notice : Notice) :
    h.GivenTo user notice (h.send user notice).2 := by
  unfold GivenTo send pushText
  cases h.current? user with
  | none => exact h.putTo_none notice
  | some id => exact h.putTo_push id notice

/-- A sign of life leaves the queues as they are. -/
theorem queue_touch (h : Switchboard) (id : ConnectionId) (now : Nanos) (id' : ConnectionId) :
    ((h.touch id now).connection? id').map Connection.queue =
      (h.connection? id').map Connection.queue := by
  rw [touch, connection?_update]
  split
  · next he =>
    subst he
    cases h.connection? id' <;> rfl
  · rfl

/-- The connections after one was opened. -/
theorem connection?_open (h : Switchboard) (user : UserId) (now : Nanos) (id : ConnectionId) :
    (h.open user now).2.connection? id =
      if id = h.connections.size then some (.opened user now) else h.connection? id :=
  Table.get?_insert ..

/-- There is one connection more, if the number of the new one was not taken. -/
theorem size_open (hfree : h.connection? h.connections.size = none) (user : UserId) (now : Nanos) :
    (h.open user now).2.connections.size = h.connections.size + 1 := by
  have hnot : ¬h.connections.contains h.connections.size = true := by
    unfold connection? at hfree
    simp [Table.contains, hfree]
  have hopen : (h.open user now).2.connections.entries =
      h.connections.entries ++ [(h.connections.size, .opened user now)] := by
    unfold «open»
    simp only [Table.insert, dif_neg hnot]
  unfold Table.size
  rw [hopen, List.length_append, List.length_singleton]

/-- **A connection that is opened** is a new one, if the connections belong to their users. -/
theorem follows_open (hown : h.Owned) (user : UserId) (now : Nanos) :
    h.Follows new (h.open user now).2 := by
  have hget := h.connection?_open user now
  have hne : ∀ id c, h.connection? id = some c → id ≠ h.connections.size :=
    fun id c hc => Nat.ne_of_lt (hown.fresh id c hc)
  have hfree : h.connection? h.connections.size = none :=
    Option.eq_none_iff_forall_ne_some.2 fun c hc => hne _ c hc rfl
  have hsize := size_open hfree user now
  constructor
  case user => exact fun id c hc => ⟨c, by rw [hget, if_neg (hne id c hc), hc], rfl⟩
  case text =>
    intro id c' s hc' hs
    rw [hget] at hc'
    split at hc'
    · obtain rfl := Option.some.inj hc'
      exact absurd hs (by simp [Connection.opened])
    · exact Or.inl ⟨c', hc', hs⟩
  case current => exact fun _ _ hid => Or.inl hid
  case fresh =>
    intro id c' hc'
    rw [hget] at hc'
    split at hc'
    · next he => exact Or.inl (by rw [hsize, he]; exact Nat.lt_succ_self _)
    · exact Or.inr ⟨c', hc'⟩
  case size => exact hsize ▸ Nat.le_succ _

end Rendezvous.Switchboard
