import Mathlib.Data.List.Induction
import Rendezvous.Proofs.Switchboard.Queues

/-!
# The latest registration wins

What is asked of the switchboard about who is connected comes in any order: a connection may be
registered long after it was opened, the reader of a connection that was replaced may take it out
when its successor is long there, the upkeep may find the same connection dead twice, and a closed
connection may be registered. Nothing of this disturbs the rule by which the current connection of a
user is found from the calls alone (`Switchboard.LatestWins`): it is the one the user registered
last, or none if a later call named it to take it out.

Why it holds is seen at one user. As long as the user registers nothing, the current connection
stays what it is until a call names it (`Switchboard.current?_after_of_undismissed`), and from then
on there is none (`Switchboard.current?_after_of_dismissed`). A registration puts the new connection
in the place of the old one, which is closed in the same step. So a connection stops being current
in three ways, of which two close it; the third one is being unregistered by its own number, and the
invariant of all connections that were ever registered says just that
(`Switchboard.closed_or_unregistered`).

The connections are there from the beginning, in any state, and nobody has registered one. That they
are opened one after another makes no difference here, for opening a connection registers nothing.
-/

namespace Rendezvous

/-- What is asked of the switchboard about who is connected. -/
inductive RegistryCall where
  /-- A connection becomes the current one of its user. -/
  | register (id : ConnectionId)
  /-- The user is not connected any more by this connection. -/
  | unregister (user : UserId) (id : ConnectionId)
  /-- A connection is taken out and closed. -/
  | evict (id : ConnectionId)
  /-- A connection is closed. -/
  | close (id : ConnectionId)
  deriving DecidableEq, Repr

/-- The call names this connection of the user, to take it out. -/
def RegistryCall.Dismisses (call : RegistryCall) (user : UserId) (id : ConnectionId) : Prop :=
  call = .unregister user id ∨ call = .evict id

instance (call : RegistryCall) (user : UserId) (id : ConnectionId) :
    Decidable (call.Dismisses user id) :=
  inferInstanceAs (Decidable (_ ∨ _))

namespace Switchboard

variable {h h₀ : Switchboard} {user user' : UserId} {id id' : ConnectionId}

/-- The switchboard after a call. -/
def perform (h : Switchboard) : RegistryCall → Switchboard
  | .register id => (h.register id).2
  | .unregister user id => (h.unregister user id).2
  | .evict id => (h.evict id).2
  | .close id => h.close id

/-- The switchboard after some calls. -/
def after (h : Switchboard) (calls : List RegistryCall) : Switchboard :=
  calls.foldl perform h

theorem after_cons (h : Switchboard) (call : RegistryCall) (calls : List RegistryCall) :
    h.after (call :: calls) = (h.perform call).after calls := rfl

theorem after_append (h : Switchboard) (earlier later : List RegistryCall) :
    h.after (earlier ++ later) = (h.after earlier).after later :=
  List.foldl_append ..

/-- There are connections, of which none was registered. -/
def idle (connections : Table ConnectionId Connection) : Switchboard :=
  ⟨connections, .empty, .empty⟩

@[simp] theorem current?_idle (connections : Table ConnectionId Connection) (user : UserId) :
    (idle connections).current? user = none := rfl

/-- Whose connection it is. -/
def owner? (h : Switchboard) (id : ConnectionId) : Option UserId :=
  (h.connection? id).map (·.user)

/-- The connection is to end. -/
def IsClosed (h : Switchboard) (id : ConnectionId) : Prop :=
  ∃ c, h.connection? id = some c ∧ c.closed = true

/-! ### Whose connections they are, and which are closed -/

theorem connections_enter (h : Switchboard) (id : ConnectionId) :
    (h.enter id).2.connections = h.connections := by
  unfold enter
  split <;> rfl

theorem connections_unregister (h : Switchboard) (user : UserId) (id : ConnectionId) :
    (h.unregister user id).2.connections = h.connections := by
  unfold unregister
  split <;> rfl

/-- **A call closes one connection or none**, and does nothing else to the connections. -/
theorem connections_perform (h : Switchboard) (call : RegistryCall) :
    (h.perform call).connections = h.connections ∨
      ∃ id, (h.perform call).connections = (h.close id).connections := by
  have hclose : ∀ {h' : Switchboard}, h'.connections = h.connections → ∀ id,
      (h'.close id).connections = (h.close id).connections := by
    intro h' he id
    unfold close update
    rw [he]
  cases call with
  | register id =>
    have henter := h.connections_enter id
    unfold perform register
    dsimp only
    split
    · exact Or.inr ⟨_, hclose henter _⟩
    · exact Or.inl henter
  | unregister user id => exact Or.inl (h.connections_unregister user id)
  | evict id =>
    unfold perform evict
    dsimp only
    split
    · exact Or.inl rfl
    · exact Or.inr ⟨id, hclose (h.connections_unregister _ id) id⟩
  | close id => exact Or.inr ⟨id, rfl⟩

theorem owner?_congr {h' : Switchboard} (he : h'.connections = h.connections)
    (id : ConnectionId) : h'.owner? id = h.owner? id := by
  unfold owner? connection?
  rw [he]

theorem owner?_close (h : Switchboard) (id id' : ConnectionId) :
    (h.close id).owner? id' = h.owner? id' := by
  unfold owner? close
  rw [connection?_update]
  split
  · rw [Option.map_map]
    exact congrArg (Option.map · _) (funext fun c => (tame_close (p := fun _ => True) c).1)
  · rfl

/-- A connection belongs to its user for ever. -/
@[simp] theorem owner?_perform (h : Switchboard) (call : RegistryCall) (id : ConnectionId) :
    (h.perform call).owner? id = h.owner? id := by
  rcases h.connections_perform call with he | ⟨id', he⟩
  · exact owner?_congr he id
  · exact (owner?_congr he id).trans (h.owner?_close id' id)

theorem owner?_after (h : Switchboard) (calls : List RegistryCall) (id : ConnectionId) :
    (h.after calls).owner? id = h.owner? id := by
  induction calls generalizing h with
  | nil => rfl
  | cons call rest ih => rw [after_cons, ih, owner?_perform]

theorem IsClosed.congr {h' : Switchboard} (hclosed : h.IsClosed id)
    (he : h'.connections = h.connections) : h'.IsClosed id := by
  unfold IsClosed connection?
  rw [he]
  exact hclosed

theorem IsClosed.close (hclosed : h.IsClosed id) (id' : ConnectionId) :
    (h.close id').IsClosed id := by
  obtain ⟨c, hc, hflag⟩ := hclosed
  unfold IsClosed Switchboard.close
  rw [connection?_update]
  split
  · exact ⟨c.close, by rw [hc]; rfl, c.closed_close⟩
  · exact ⟨c, hc, hflag⟩

/-- A connection that is closed stays closed. -/
theorem IsClosed.perform (hclosed : h.IsClosed id) (call : RegistryCall) :
    (h.perform call).IsClosed id := by
  rcases h.connections_perform call with he | ⟨id', he⟩
  · exact hclosed.congr he
  · exact (hclosed.close id').congr he

theorem isClosed_close (howner : h.owner? id = some user) : (h.close id).IsClosed id := by
  obtain ⟨c, hc, -⟩ := Option.map_eq_some_iff.1 howner
  exact ⟨c.close, by rw [close, connection?_update, if_pos rfl, hc]; rfl, c.closed_close⟩

/-! ### Who is current after a call -/

theorem current?_unregister (h : Switchboard) (user user' : UserId) (id : ConnectionId) :
    (h.unregister user id).2.current? user' =
      if user' = user ∧ h.current? user = some id then none else h.current? user' := by
  unfold unregister
  by_cases hcur : h.current? user = some id
  · rw [if_pos hcur]
    change (h.current.erase user).get? user' = _
    by_cases he : user' = user
    · rw [if_pos ⟨he, hcur⟩, he, Table.get?_erase_self]
    · rw [if_neg (he ·.1), Table.get?_erase_of_ne _ he]
      rfl
  · rw [if_neg hcur, if_neg (hcur ·.2)]

theorem current?_evict (h : Switchboard) (id : ConnectionId) (user : UserId) :
    (h.evict id).2.current? user =
      if h.owner? id = some user ∧ h.current? user = some id then none else h.current? user := by
  unfold evict owner?
  cases hc : h.connection? id with
  | none => simp
  | some c =>
    change (h.unregister c.user id).2.current? user = _
    rw [current?_unregister]
    by_cases he : user = c.user
    · subst he
      simp
    · simp [he, Ne.symm he]

theorem current?_enter (h : Switchboard) (id : ConnectionId) (user : UserId) :
    (h.enter id).2.current? user =
      if h.owner? id = some user then some id else h.current? user := by
  unfold enter owner?
  cases hc : h.connection? id with
  | none => simp
  | some c =>
    change (h.current.insert c.user id).get? user = _
    rw [Table.get?_insert]
    by_cases he : user = c.user
    · simp [he]
    · simp [he, Ne.symm he, current?]

theorem current?_register (h : Switchboard) (id : ConnectionId) (user : UserId) :
    (h.register id).2.current? user =
      if h.owner? id = some user then some id else h.current? user := by
  unfold register
  dsimp only
  split
  · exact h.current?_enter id user
  · exact h.current?_enter id user

theorem unregister_eq_true : (h.unregister user id).1 = true ↔ h.current? user = some id := by
  unfold unregister
  split
  · next hcur => simp [hcur]
  · next hcur => simp [hcur]

theorem evict_eq_true :
    (h.evict id).1 = true ↔ ∃ user, h.owner? id = some user ∧ h.current? user = some id := by
  unfold evict owner?
  cases hc : h.connection? id with
  | none => simp
  | some c =>
    change (h.unregister c.user id).1 = true ↔ _
    simp [unregister_eq_true]

/-- The call registers a connection of the user. -/
def Registers (h : Switchboard) (call : RegistryCall) (user : UserId) : Prop :=
  ∃ id, call = .register id ∧ h.owner? id = some user

/-- **Who is current after a call that names the connection**, to take it out. -/
theorem current?_perform_of_dismisses {call : RegistryCall} (howner : h.owner? id = some user)
    (hcall : call.Dismisses user id) (user' : UserId) :
    (h.perform call).current? user' =
      if user' = user ∧ h.current? user = some id then none else h.current? user' := by
  rcases hcall with rfl | rfl
  · exact h.current?_unregister user user' id
  · refine (h.current?_evict id user').trans ?_
    by_cases he : user' = user
    · subst he
      simp [howner]
    · simp [howner, he, Ne.symm he]

/-- **Who is current after a call that neither registers** a connection of the user nor names the
current one: the same. -/
theorem current?_perform_of_quiet {call : RegistryCall} (hreg : ¬h.Registers call user)
    (hcall : ∀ id, h.current? user = some id → ¬call.Dismisses user id) :
    (h.perform call).current? user = h.current? user := by
  cases call with
  | register id =>
    refine (h.current?_register id user).trans (if_neg fun howner => ?_)
    exact hreg ⟨id, rfl, howner⟩
  | unregister user' id =>
    refine (h.current?_unregister user' user id).trans (if_neg ?_)
    rintro ⟨rfl, hcur⟩
    exact hcall id hcur (Or.inl rfl)
  | evict id =>
    refine (h.current?_evict id user).trans (if_neg ?_)
    rintro ⟨-, hcur⟩
    exact hcall id hcur (Or.inr rfl)
  | close id => rfl

theorem current?_perform_of_undismissed {call : RegistryCall} (hreg : ¬h.Registers call user)
    (hcur : h.current? user = some id) (hcall : ¬call.Dismisses user id) :
    (h.perform call).current? user = some id := by
  refine (current?_perform_of_quiet hreg fun id' hid' => ?_).trans hcur
  obtain rfl : id = id' := Option.some.inj (hcur.symm.trans hid')
  exact hcall

theorem current?_perform_of_registers {call : RegistryCall} (hcall : call = .register id)
    (howner : h.owner? id = some user) : (h.perform call).current? user = some id := by
  subst hcall
  exact (h.current?_register id user).trans (if_pos howner)

/-! ### Who is current after calls of which none registers a connection of the user -/

/-- None of the calls registers a connection of the user. -/
def Quiet (h : Switchboard) (calls : List RegistryCall) (user : UserId) : Prop :=
  ∀ id, .register id ∈ calls → h.owner? id ≠ some user

theorem Quiet.head {call : RegistryCall} {rest : List RegistryCall}
    (hquiet : h.Quiet (call :: rest) user) : ¬h.Registers call user := by
  rintro ⟨id, rfl, howner⟩
  exact hquiet id List.mem_cons_self howner

theorem Quiet.tail {call : RegistryCall} {rest : List RegistryCall}
    (hquiet : h.Quiet (call :: rest) user) : (h.perform call).Quiet rest user := by
  intro id hid
  rw [owner?_perform]
  exact hquiet id (List.mem_cons_of_mem _ hid)

theorem current?_after_of_none {calls : List RegistryCall} (hquiet : h.Quiet calls user)
    (hcur : h.current? user = none) : (h.after calls).current? user = none := by
  induction calls generalizing h with
  | nil => exact hcur
  | cons call rest ih =>
    refine ih hquiet.tail ?_
    rw [current?_perform_of_quiet hquiet.head fun id hid => absurd (hcur.symm.trans hid) (by simp)]
    exact hcur

/-- **A connection stays the current one** until a call names it. -/
theorem current?_after_of_undismissed {calls : List RegistryCall} (hquiet : h.Quiet calls user)
    (hcur : h.current? user = some id) (hcalls : ∀ call ∈ calls, ¬call.Dismisses user id) :
    (h.after calls).current? user = some id := by
  induction calls generalizing h with
  | nil => exact hcur
  | cons call rest ih =>
    refine ih hquiet.tail ?_ fun call' hmem => hcalls call' (List.mem_cons_of_mem _ hmem)
    exact current?_perform_of_undismissed hquiet.head hcur (hcalls call List.mem_cons_self)

/-- **Nobody is current** once a call has named the connection. -/
theorem current?_after_of_dismissed {calls : List RegistryCall} (hquiet : h.Quiet calls user)
    (hcur : h.current? user = some id) (howner : h.owner? id = some user)
    (hcalls : ∃ call ∈ calls, call.Dismisses user id) :
    (h.after calls).current? user = none := by
  induction calls generalizing h with
  | nil => simp at hcalls
  | cons call rest ih =>
    -- the first call that names the connection takes it out, and nobody comes in its place
    by_cases hcall : call.Dismisses user id
    · rw [after_cons]
      refine current?_after_of_none hquiet.tail ?_
      rw [current?_perform_of_dismisses howner hcall, if_pos ⟨rfl, hcur⟩]
    · refine ih hquiet.tail ?_ (by rw [owner?_perform, howner]) ?_
      · exact current?_perform_of_undismissed hquiet.head hcur hcall
      · obtain ⟨call', hmem, hcall'⟩ := hcalls
        rcases List.mem_cons.1 hmem with rfl | hmem
        · exact absurd hcall' hcall
        · exact ⟨call', hmem, hcall'⟩

/-! ### Connections that are not current any more -/

/-- The current connection of a user is one of the user's own. -/
def OwnEntries (h : Switchboard) : Prop :=
  ∀ user id, h.current? user = some id → h.owner? id = some user

/-- A connection that has become current was registered by this call. -/
theorem current?_perform_cases {call : RegistryCall}
    (hcur : (h.perform call).current? user = some id) :
    h.current? user = some id ∨ (call = .register id ∧ h.owner? id = some user) := by
  cases call with
  | register id' =>
    rw [perform, current?_register] at hcur
    split at hcur
    · next howner =>
      obtain rfl := Option.some.inj hcur
      exact Or.inr ⟨rfl, howner⟩
    · exact Or.inl hcur
  | unregister user' id' =>
    rw [perform, current?_unregister] at hcur
    split at hcur
    · exact absurd hcur (by simp)
    · exact Or.inl hcur
  | evict id' =>
    rw [perform, current?_evict] at hcur
    split at hcur
    · exact absurd hcur (by simp)
    · exact Or.inl hcur
  | close id' => exact Or.inl hcur

theorem OwnEntries.perform (hown : h.OwnEntries) (call : RegistryCall) :
    (h.perform call).OwnEntries := by
  intro user id hcur
  rw [owner?_perform]
  rcases current?_perform_cases hcur with hold | ⟨-, howner⟩
  · exact hown user id hold
  · exact howner

theorem OwnEntries.after (hown : h.OwnEntries) (calls : List RegistryCall) :
    (h.after calls).OwnEntries := by
  induction calls generalizing h with
  | nil => exact hown
  | cons call rest ih => exact ih (hown.perform call)

theorem ownEntries_idle (connections : Table ConnectionId Connection) :
    (idle connections).OwnEntries :=
  fun _ _ hcur => absurd hcur (by simp)

/-- **A connection does not come back** unless it is registered. -/
theorem current?_after_ne {calls : List RegistryCall} (hcur : h.current? user ≠ some id)
    (hcalls : .register id ∉ calls) : (h.after calls).current? user ≠ some id := by
  induction calls generalizing h with
  | nil => exact hcur
  | cons call rest ih =>
    refine ih (fun hcur' => ?_) (List.not_mem_of_not_mem_cons hcalls)
    rcases current?_perform_cases hcur' with hold | ⟨rfl, -⟩
    · exact hcur hold
    · exact hcalls List.mem_cons_self

/-- **A connection stops being current** when another one of its user is registered, when it is
evicted, and then it is closed; or when it is unregistered by its own number. -/
theorem closed_or_unregistered_of_perform {call : RegistryCall} (howner : h.owner? id = some user)
    (hcur : h.current? user = some id) (hnot : (h.perform call).current? user ≠ some id) :
    (h.perform call).IsClosed id ∨ call = .unregister user id := by
  cases call with
  | register id' =>
    refine Or.inl ?_
    rw [perform, current?_register] at hnot
    split at hnot
    · next howner' =>
      -- the answer of `enter` is the connection that was current
      obtain ⟨c, hc, hcuser⟩ := Option.map_eq_some_iff.1 howner'
      have henter : h.enter id' = (some id, { h with current := h.current.insert user id' }) := by
        simp only [enter, hc, hcuser, hcur]
      unfold perform register
      simp only [henter]
      exact isClosed_close howner
    · exact absurd hcur hnot
  | unregister user' id' =>
    refine Or.inr ?_
    rw [perform, current?_unregister] at hnot
    split at hnot
    · next hboth =>
      obtain ⟨rfl, hcur'⟩ := hboth
      obtain rfl : id = id' := Option.some.inj (hcur.symm.trans hcur')
      rfl
    · exact absurd hcur hnot
  | evict id' =>
    refine Or.inl ?_
    rw [perform, current?_evict] at hnot
    split at hnot
    · next hboth =>
      obtain rfl : id = id' := Option.some.inj (hcur.symm.trans hboth.2)
      obtain ⟨c, hc, -⟩ := Option.map_eq_some_iff.1 howner
      have hleft := (owner?_congr (h.connections_unregister c.user id) id).trans howner
      simpa only [perform, evict, hc] using isClosed_close hleft
    · exact absurd hcur hnot
  | close id' => exact absurd hcur hnot

/-- A call of this history unregistered the connection, which was the current one then, and it was
not registered again. -/
def Unregistered (h₀ : Switchboard) (calls : List RegistryCall) (user : UserId)
    (id : ConnectionId) : Prop :=
  ∃ before since, calls = before ++ .unregister user id :: since ∧ .register id ∉ since ∧
    ((h₀.after before).unregister user id).1 = true

theorem Unregistered.concat {calls : List RegistryCall} (hgone : h₀.Unregistered calls user id)
    {call : RegistryCall} (hcall : call ≠ .register id) :
    h₀.Unregistered (calls ++ [call]) user id := by
  obtain ⟨before, since, rfl, hsince, htrue⟩ := hgone
  refine ⟨before, since ++ [call], by simp, ?_, htrue⟩
  simp [hsince, Ne.symm hcall]

/-- **A connection that was registered and is not current** is closed, unless it was unregistered by
its own number. -/
theorem closed_or_unregistered (h₀ : Switchboard) (calls : List RegistryCall)
    (howner : h₀.owner? id = some user) (hmem : .register id ∈ calls)
    (hcur : (h₀.after calls).current? user ≠ some id) :
    (h₀.after calls).IsClosed id ∨ h₀.Unregistered calls user id := by
  induction calls using List.reverseRecOn with
  | nil => simp at hmem
  | append_singleton calls call ih =>
    have howner' : (h₀.after calls).owner? id = some user := (owner?_after ..).trans howner
    rw [after_append] at hcur ⊢
    -- the connection was registered before the last call, for otherwise it would be current
    by_cases hnow : call = .register id
    · exact absurd (current?_perform_of_registers hnow howner') hcur
    have hmem' : .register id ∈ calls := by
      rcases List.mem_append.1 hmem with hmem | hmem
      · exact hmem
      · exact absurd (List.mem_singleton.1 hmem).symm hnow
    -- either the last call has put an end to its being current, or an earlier one
    by_cases hlast : (h₀.after calls).current? user = some id
    · rcases closed_or_unregistered_of_perform howner' hlast hcur with hclosed | rfl
      · exact Or.inl hclosed
      · exact Or.inr ⟨calls, [], rfl, by simp, unregister_eq_true.2 hlast⟩
    · rcases ih hmem' hlast with hclosed | hgone
      · exact Or.inl (hclosed.perform call)
      · exact Or.inr (hgone.concat hnow)

/-! ### The rule -/

/-- **The connection that a user registered last**, and the calls since. -/
structure LastRegistered (h₀ : Switchboard) (calls since : List RegistryCall) (user : UserId)
    (id : ConnectionId) : Prop where
  /-- The connection was registered, and these are the calls since. -/
  registered : ∃ before, calls = before ++ .register id :: since
  /-- It is a connection of the user. -/
  owner : h₀.owner? id = some user
  /-- No connection of the user was registered since. -/
  quiet : h₀.Quiet since user

/-- **The latest registration wins**: what holds after these calls, whatever they are and in which
order ever they came. -/
structure LatestWins (h₀ : Switchboard) (calls : List RegistryCall) : Prop where
  /-- The connection that a user registered last is the current one, if no call since has named
  it. -/
  latest : ∀ user id since, h₀.LastRegistered calls since user id →
    (∀ call ∈ since, ¬call.Dismisses user id) → (h₀.after calls).current? user = some id
  /-- If a call since has named it, then there is no current connection of this user. -/
  dismissed : ∀ user id since, h₀.LastRegistered calls since user id →
    (∃ call ∈ since, call.Dismisses user id) → (h₀.after calls).current? user = none
  /-- A user of whom no connection was registered has no current one. -/
  never : ∀ user, h₀.Quiet calls user → (h₀.after calls).current? user = none
  /-- A connection that is not current does not come back, unless it is registered again. -/
  gone : ∀ user id later, (h₀.after calls).current? user ≠ some id → .register id ∉ later →
    (h₀.after (calls ++ later)).current? user ≠ some id
  /-- The current connection of a user is one of the user's own. -/
  own : ∀ user id, (h₀.after calls).current? user = some id →
    ∃ c, (h₀.after calls).connection? id = some c ∧ c.user = user
  /-- Unregistering says whether the connection was the current one of the user. -/
  unregister : ∀ user id, ((h₀.after calls).unregister user id).1 = true ↔
    (h₀.after calls).current? user = some id
  /-- Evicting says whether the connection was a current one. -/
  evict : ∀ id, ((h₀.after calls).evict id).1 = true ↔
    ∃ user, (h₀.after calls).current? user = some id
  /-- Both take out the connection that they name, if it is the current one of its user, and change
  nothing else of who is current. -/
  removal : ∀ call user id, h₀.owner? id = some user → call.Dismisses user id →
    ∀ user', ((h₀.after calls).perform call).current? user' =
      if user' = user ∧ (h₀.after calls).current? user = some id then none
      else (h₀.after calls).current? user'
  /-- The connection that has taken the place of another one stays when the other one is taken
  out. -/
  successor : ∀ call user id id', (h₀.after calls).current? user = some id' → id' ≠ id →
    call.Dismisses user id → ((h₀.after calls).perform call).current? user = some id'
  /-- Unregistering somebody else's connection does nothing. -/
  foreign : ∀ user id, h₀.owner? id ≠ some user →
    (h₀.after calls).unregister user id = (false, h₀.after calls)
  /-- A connection that was registered and is not current is closed, unless it was unregistered by
  its own number. -/
  closed : ∀ user id, .register id ∈ calls → h₀.owner? id = some user →
    (h₀.after calls).current? user ≠ some id →
    (h₀.after calls).IsClosed id ∨ h₀.Unregistered calls user id

/-- The connection that was registered last is current right then. -/
theorem LastRegistered.exists_current {calls since : List RegistryCall}
    (hlast : h₀.LastRegistered calls since user id) :
    ∃ h : Switchboard, h₀.after calls = h.after since ∧ h.current? user = some id ∧
      h.owner? id = some user ∧ h.Quiet since user := by
  obtain ⟨⟨before, rfl⟩, howner, hquiet⟩ := hlast
  have hkeeps : ∀ id, ((h₀.after before).perform (.register id)).owner? id = h₀.owner? id :=
    fun id => (owner?_perform ..).trans (owner?_after ..)
  refine ⟨(h₀.after before).perform (.register id), after_append .., ?_, ?_, ?_⟩
  · exact current?_perform_of_registers rfl ((owner?_after ..).trans howner)
  · exact (hkeeps id).trans howner
  · intro id' hid'
    rw [owner?_perform, owner?_after]
    exact hquiet id' hid'

/-- **The latest registration wins**, over all calls on connections of which none was registered
before. -/
theorem latestWins (connections : Table ConnectionId Connection) (calls : List RegistryCall) :
    (idle connections).LatestWins calls := by
  have hown := (ownEntries_idle connections).after calls
  constructor
  case latest =>
    intro user id since hlast hcalls
    obtain ⟨h, he, hcur, -, hquiet⟩ := hlast.exists_current
    rw [he]
    exact current?_after_of_undismissed hquiet hcur hcalls
  case dismissed =>
    intro user id since hlast hcalls
    obtain ⟨h, he, hcur, howner, hquiet⟩ := hlast.exists_current
    rw [he]
    exact current?_after_of_dismissed hquiet hcur howner hcalls
  case never => exact fun user hquiet => current?_after_of_none hquiet rfl
  case gone =>
    intro user id later hcur hlater
    rw [after_append]
    exact current?_after_ne hcur hlater
  case own => exact fun user id hcur => Option.map_eq_some_iff.1 (hown user id hcur)
  case unregister => exact fun user id => unregister_eq_true
  case evict =>
    intro id
    rw [evict_eq_true]
    exact exists_congr fun user => and_iff_right_of_imp (hown user id)
  case removal =>
    intro call user id howner hcall user'
    exact current?_perform_of_dismisses ((owner?_after ..).trans howner) hcall user'
  case successor =>
    intro call user id id' hcur hne hcall
    refine current?_perform_of_undismissed ?_ hcur ?_
    · rintro ⟨id'', rfl, -⟩
      rcases hcall with he | he <;> cases he
    · -- the call names one connection, and that is the other one
      rintro (rfl | rfl) <;> rcases hcall with he | he <;> cases he <;> exact hne rfl
  case foreign =>
    intro user id howner
    refine if_neg fun hcur => howner ?_
    rw [← owner?_after _ calls]
    exact hown user id hcur
  case closed =>
    intro user id hmem howner hcur
    exact closed_or_unregistered _ calls howner hmem hcur

/-- A reader that unregisters its connection late does not take out the one that replaced it. -/
example :
    let h := idle ((Table.empty.insert 0 (.opened 7 0)).insert 1 (.opened 7 5))
    (h.after [.register 0, .register 1, .unregister 7 0, .evict 0]).current? 7 = some 1 := by
  decide

end Switchboard

end Rendezvous
