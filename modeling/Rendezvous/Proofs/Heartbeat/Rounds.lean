import Mathlib.Data.List.Nodup
import Rendezvous.Proofs.Switchboard.Comings
import Rendezvous.Proofs.Switchboard.Signs
import Rendezvous.Switchboard.Round

/-!
# What a round does to one connection

A round looks at all connections that were current when it began, one after the other, and each may
be pinged. Seen from one of them, the others make no difference: it is looked at as it was when the
round came to look, and what becomes of its ping is not changed by the pings of the others
(`Round.checkFrom_cases`). So a connection that was heard of recently, and whose queue has room, is
pinged, and the ping is open when all are looked at (`Round.checkFrom_responsive`).

The end of a round touches only the connections that it judged dead (`Round.connection?_evictAll`,
`Round.keeps_evictAll`).
-/

namespace Rendezvous.Round

variable {r : Round} {now : Nanos} {l : List (ConnectionId × Candidacy)} {h : Switchboard}
  {id : ConnectionId} {k : Candidacy} {user : UserId} {t : Nat}
  {heard gone : ConnectionId → Prop} {new : ConnectionId → String → Prop}

/-! ### The beginning -/

/-- A round takes stock of the current connections, and knows nothing about them. -/
theorem mem_start {writeWait liveness : Nanos} :
    (id, k) ∈ (start writeWait liveness h).candidates ↔
      k = .unchecked ∧ ∃ user, h.current? user = some id := by
  unfold start Switchboard.snapshot Switchboard.current?
  simp only [List.mem_map, Prod.exists, Prod.mk.injEq, Table.mem_entries]
  constructor
  · rintro ⟨user, id', hentry, rfl, rfl⟩
    exact ⟨rfl, user, hentry⟩
  · rintro ⟨rfl, user, hentry⟩
    exact ⟨user, id, hentry, rfl, rfl⟩

/-- No connection is looked at twice, since none belongs to two users. -/
theorem nodup_start (hown : h.Owned) (writeWait liveness : Nanos) :
    ((start writeWait liveness h).candidates.map (·.1)).Nodup := by
  have hids : (start writeWait liveness h).candidates.map (·.1) = h.current.entries.map (·.2) := by
    simp [start, Switchboard.snapshot, Function.comp_def]
  rw [hids]
  refine List.Nodup.map_on ?_ (.of_map _ h.current.distinct)
  rintro ⟨u, id⟩ hu ⟨u', id'⟩ hu' rfl
  obtain ⟨c, hc, huser⟩ := hown.current u id (Table.mem_entries.1 hu)
  obtain ⟨c', hc', huser'⟩ := hown.current u' id (Table.mem_entries.1 hu')
  obtain rfl : c = c' := Option.some.inj (hc.symm.trans hc')
  rw [← huser, ← huser']

/-! ### Looking at one connection -/

/-- **A connection that is looked at** is dead and nothing happens to it, or it is pinged. -/
theorem check_cases (r : Round) (now : Nanos) (id : ConnectionId) (h : Switchboard) :
    (∃ reason, r.check now id h = (.dead reason, h)) ∨
      r.check now id h = (.pinged h.probes.size, (h.probe id now r.writeWait).2) := by
  unfold check
  split
  · exact Or.inl ⟨_, rfl⟩
  · split
    · exact Or.inl ⟨_, rfl⟩
    · exact Or.inr rfl

/-- **A round takes a connection for silent** if it says that nothing came from its client for too
long. -/
theorem check_eq_silent_iff {c : Connection} (hc : h.connection? id = some c) :
    (r.check now id h).1 = .dead .silent ↔ r.liveness < c.silence now := by
  unfold check
  by_cases hlong : r.liveness < c.silence now <;> simp [hc, hlong]

theorem carries_check (hticketed : h.Ticketed) : h.Carries heard (r.check now id h).2 := by
  rcases r.check_cases now id h with ⟨reason, he⟩ | he <;> rw [he]
  · exact .refl h
  · exact Switchboard.carries_probe hticketed ..

/-- Looking at a connection does nothing to another one. -/
theorem connection?_check_of_ne {id' : ConnectionId} (hne : id' ≠ id) :
    (r.check now id h).2.connection? id' = h.connection? id' := by
  rcases r.check_cases now id h with ⟨reason, he⟩ | he <;> rw [he]
  exact Switchboard.connection?_probe_of_ne hne ..

/-- Looking at a connection does nothing to earlier pings. -/
theorem get?_check (hlt : t < h.probes.size) :
    (r.check now id h).2.probes.get? t = h.probes.get? t := by
  rcases r.check_cases now id h with ⟨reason, he⟩ | he <;> rw [he]
  exact Switchboard.get?_probe_of_lt hlt ..

/-- **A ping that is asked for** has a new number, and its time begins now. -/
theorem check_pinged (hticketed : h.Ticketed) (hpinged : (r.check now id h).1 = .pinged t) :
    t < (r.check now id h).2.probes.size ∧ ∀ time,
      (r.check now id h).2.probes.get? t = some (.waiting time) → time = now + r.writeWait := by
  rcases r.check_cases now id h with ⟨reason, he⟩ | he <;> rw [he] at hpinged ⊢
  · exact absurd hpinged nofun
  · obtain rfl := Candidacy.pinged.inj hpinged
    have hsize := Switchboard.size_probe hticketed id now r.writeWait
    exact ⟨Nat.lt_of_lt_of_eq (Nat.lt_succ_self _) hsize.symm,
      fun time => Switchboard.deadline_probe⟩

/-- **A connection of which something was heard** in time, and whose queue has room, is pinged. -/
theorem check_responsive (hwait : 0 < r.writeWait) {c : Connection}
    (hc : h.connection? id = some c) (hroom : c.hasRoom = true)
    (hlive : c.silence now ≤ r.liveness) :
    ∃ t, (r.check now id h).1 = .pinged t ∧ (r.check now id h).2.verdict? t = none := by
  have hcheck : r.check now id h =
      (.pinged (h.probe id now r.writeWait).1, (h.probe id now r.writeWait).2) := by
    unfold check
    simp only [hc, if_neg (Nat.not_lt.2 hlive)]
  rw [hcheck]
  exact ⟨h.probes.size, rfl, Switchboard.verdict?_probe hc hroom hwait⟩

/-! ### Looking at all connections -/

/-- The first connection is looked at, or it was looked at before, and then the others. -/
theorem checkFrom_cons (r : Round) (now : Nanos) (id : ConnectionId) (k : Candidacy)
    (rest : List (ConnectionId × Candidacy)) (h : Switchboard) :
    (k = .unchecked ∧ r.checkFrom now ((id, k) :: rest) h =
      ((id, (r.check now id h).1) :: (r.checkFrom now rest (r.check now id h).2).1,
        (r.checkFrom now rest (r.check now id h).2).2)) ∨
    (k ≠ .unchecked ∧ r.checkFrom now ((id, k) :: rest) h =
      ((id, k) :: (r.checkFrom now rest h).1, (r.checkFrom now rest h).2)) := by
  cases k with
  | unchecked => exact Or.inl ⟨rfl, rfl⟩
  | _ => exact Or.inr ⟨nofun, rfl⟩

theorem map_fst_checkFrom (r : Round) (now : Nanos) (l : List (ConnectionId × Candidacy))
    (h : Switchboard) : (r.checkFrom now l h).1.map (·.1) = l.map (·.1) := by
  induction l generalizing h with
  | nil => rfl
  | cons p rest ih =>
    obtain ⟨id, k⟩ := p
    rcases r.checkFrom_cons now id k rest h with ⟨-, he⟩ | ⟨-, he⟩ <;> rw [he] <;> simp [ih]

/-- **What can be said of pings** can be said of looking at all connections: there is nothing more
to it than pings. -/
theorem checkFrom_induction {p : Switchboard → Switchboard → Prop} (hrefl : ∀ h, p h h)
    (htrans : ∀ h h' h'', p h h' → p h' h'' → p h h'')
    (hprobe : ∀ h id, p h (h.probe id now r.writeWait).2)
    (l : List (ConnectionId × Candidacy)) (h : Switchboard) : p h (r.checkFrom now l h).2 := by
  induction l generalizing h with
  | nil => exact hrefl h
  | cons e rest ih =>
    obtain ⟨id, k⟩ := e
    rcases r.checkFrom_cons now id k rest h with ⟨-, he⟩ | ⟨-, he⟩ <;> rw [he]
    · refine htrans _ _ _ ?_ (ih _)
      rcases r.check_cases now id h with ⟨reason, hcheck⟩ | hcheck <;> rw [hcheck]
      · exact hrefl h
      · exact hprobe h id
    · exact ih h

theorem follows_checkFrom (l : List (ConnectionId × Candidacy)) :
    h.Follows new (r.checkFrom now l h).2 :=
  checkFrom_induction .refl (fun _ _ _ => .trans)
    (fun _ id => Switchboard.follows_probe id now r.writeWait) l h

theorem keeps_checkFrom (l : List (ConnectionId × Candidacy)) :
    h.Keeps gone (r.checkFrom now l h).2 :=
  checkFrom_induction .refl (fun _ _ _ => .trans)
    (fun _ id => Switchboard.keeps_probe id now r.writeWait) l h

theorem carries_checkFrom (hticketed : h.Ticketed) (l : List (ConnectionId × Candidacy)) :
    h.Carries heard (r.checkFrom now l h).2 := by
  refine checkFrom_induction (p := fun h h' => h.Ticketed → h.Carries heard h')
    (fun h _ => .refl h) ?_ ?_ l h hticketed
  · intro h h' h'' hc hc' hticketed
    exact (hc hticketed).trans (hc' (hticketed.carries (hc hticketed)))
  · intro h id hticketed
    exact Switchboard.carries_probe hticketed id now r.writeWait

/-- Nobody is closed by a ping. -/
theorem isClosed_of_probe {id' : ConnectionId} {wait : Nanos}
    (hclosed : (h.probe id' now wait).2.IsClosed id) : h.IsClosed id := by
  obtain ⟨c', hc', hflag⟩ := hclosed
  by_cases hid : id = id'
  · subst hid
    unfold Switchboard.probe at hc'
    cases hc : h.connection? id with
    | none =>
      simp only [hc] at hc'
      exact absurd (hc.symm.trans hc') nofun
    | some c =>
      simp only [hc] at hc'
      obtain rfl := Option.some.inj ((Table.get?_insert_self ..).symm.trans hc')
      exact ⟨c, hc, (Switchboard.closed_offer c _).2.symm.trans hflag⟩
  · rw [Switchboard.connection?_probe_of_ne hid] at hc'
    exact ⟨c', hc', hflag⟩

/-- Nor when all are looked at. -/
theorem isClosed_of_checkFrom (hclosed : (r.checkFrom now l h).2.IsClosed id) : h.IsClosed id :=
  checkFrom_induction (p := fun h h' => h'.IsClosed id → h.IsClosed id) (fun _ hclosed => hclosed)
    (fun _ _ _ hc hc' hclosed => hc (hc' hclosed)) (fun _ _ => isClosed_of_probe) l h hclosed

/-- Nothing is done to earlier pings when all connections are looked at. -/
theorem get?_checkFrom (hticketed : h.Ticketed) (hlt : t < h.probes.size)
    (l : List (ConnectionId × Candidacy)) :
    (r.checkFrom now l h).2.probes.get? t = h.probes.get? t := by
  induction l generalizing h with
  | nil => rfl
  | cons p rest ih =>
    obtain ⟨id, k⟩ := p
    rcases r.checkFrom_cons now id k rest h with ⟨-, he⟩ | ⟨-, he⟩ <;> rw [he]
    · have hcheck : h.Carries (fun _ => False) (r.check now id h).2 := carries_check hticketed
      rw [ih (hticketed.carries hcheck) (Nat.lt_of_lt_of_le hlt hcheck.size)]
      exact get?_check hlt
    · exact ih hticketed hlt

/-- **What is known about a connection** when all are looked at was known before, or comes from
looking at the connection as it was, in a state of the switchboard to which only pings were added
since, and to which only pings are added until the end. -/
theorem checkFrom_cases (hticketed : h.Ticketed) (hnodup : (l.map (·.1)).Nodup)
    (hmem : (id, k) ∈ (r.checkFrom now l h).1) :
    ((id, k) ∈ l ∧ k ≠ .unchecked) ∨
    ((id, .unchecked) ∈ l ∧ ∃ h₁ : Switchboard, h₁.Ticketed ∧
      h₁.connection? id = h.connection? id ∧ k = (r.check now id h₁).1 ∧
      (r.check now id h₁).2.probes.size ≤ (r.checkFrom now l h).2.probes.size ∧
      ∀ t, t < (r.check now id h₁).2.probes.size →
        (r.checkFrom now l h).2.probes.get? t = (r.check now id h₁).2.probes.get? t) := by
  induction l generalizing h with
  | nil => exact absurd hmem List.not_mem_nil
  | cons p rest ih =>
    obtain ⟨id', k'⟩ := p
    obtain ⟨hnot, hrest⟩ := List.nodup_cons.1 hnodup
    have hkeys := fun h => r.map_fst_checkFrom now rest h
    rcases r.checkFrom_cons now id' k' rest h with ⟨rfl, he⟩ | ⟨hk', he⟩ <;> rw [he] at hmem ⊢
    · have hcheck : h.Carries (fun _ => False) (r.check now id' h).2 := carries_check hticketed
      have hticketed' := hticketed.carries hcheck
      rcases List.mem_cons.1 hmem with hnow | hlater
      · obtain ⟨rfl, rfl⟩ := Prod.mk.inj hnow
        have hrest' : Switchboard.Carries (fun _ => False) _ (r.checkFrom now rest _).2 :=
          carries_checkFrom hticketed' rest
        exact Or.inr ⟨List.mem_cons_self, h, hticketed, rfl, rfl, hrest'.size,
          fun t hlt => get?_checkFrom hticketed' hlt rest⟩
      · have hne : id ≠ id' := by
          rintro rfl
          have hmem' := List.mem_map_of_mem (f := (·.1)) hlater
          rw [hkeys] at hmem'
          exact hnot hmem'
        rcases ih hticketed' hrest hlater with ⟨hold, hk⟩ | ⟨hold, h₁, hh₁, hc, hk, hprobes⟩
        · exact Or.inl ⟨List.mem_cons_of_mem _ hold, hk⟩
        · exact Or.inr ⟨List.mem_cons_of_mem _ hold, h₁, hh₁,
            hc.trans (connection?_check_of_ne hne), hk, hprobes⟩
    · rcases List.mem_cons.1 hmem with hnow | hlater
      · obtain ⟨rfl, rfl⟩ := Prod.mk.inj hnow
        exact Or.inl ⟨List.mem_cons_self, hk'⟩
      · rcases ih hticketed hrest hlater with ⟨hold, hk⟩ | ⟨hold, hfound⟩
        · exact Or.inl ⟨List.mem_cons_of_mem _ hold, hk⟩
        · exact Or.inr ⟨List.mem_cons_of_mem _ hold, hfound⟩

/-- **A connection of which something was heard** in time, and whose queue has room, is pinged, and
the ping is open when all connections are looked at. -/
theorem checkFrom_responsive (hticketed : h.Ticketed) (hnodup : (l.map (·.1)).Nodup)
    (hwait : 0 < r.writeWait) {c : Connection} (hc : h.connection? id = some c)
    (hroom : c.hasRoom = true) (hlive : c.silence now ≤ r.liveness)
    (hunchecked : (id, .unchecked) ∈ l) (hmem : (id, k) ∈ (r.checkFrom now l h).1) :
    ∃ t, k = .pinged t ∧ (r.checkFrom now l h).2.verdict? t = none := by
  rcases checkFrom_cases hticketed hnodup hmem with ⟨hold, hk⟩ | ⟨-, h₁, hh₁, hc₁, hk, -, hget⟩
  · have he := List.inj_on_of_nodup_map hnodup hold hunchecked rfl
    exact absurd (Prod.mk.inj he).2 hk
  · obtain ⟨t, hpinged, hopen⟩ := check_responsive hwait (hc₁.trans hc) hroom hlive
    refine ⟨t, hk.trans hpinged, ?_⟩
    unfold Switchboard.verdict? at hopen ⊢
    rw [hget t (check_pinged hh₁ hpinged).1]
    exact hopen

/-- **When all connections are looked at**, the pings that were asked for have their time. -/
theorem checkFrom_pinged (hticketed : h.Ticketed) (hnodup : (l.map (·.1)).Nodup)
    (hunchecked : ∀ id k, (id, k) ∈ l → k = .unchecked)
    (hmem : (id, .pinged t) ∈ (r.checkFrom now l h).1) :
    t < (r.checkFrom now l h).2.probes.size ∧ ∀ time,
      (r.checkFrom now l h).2.probes.get? t = some (.waiting time) → time = now + r.writeWait := by
  rcases checkFrom_cases hticketed hnodup hmem with ⟨hold, hk⟩ | ⟨-, h₁, hh₁, -, hk, hsize, hget⟩
  · exact absurd (hunchecked id _ hold) hk
  · obtain ⟨hlt, htime⟩ := check_pinged hh₁ hk.symm
    rw [hget t hlt]
    exact ⟨Nat.lt_of_lt_of_le hlt hsize, htime⟩

/-- And no connection is left that was not looked at. -/
theorem checkFrom_ne_unchecked (hticketed : h.Ticketed) (hnodup : (l.map (·.1)).Nodup)
    (hmem : (id, k) ∈ (r.checkFrom now l h).1) : k ≠ .unchecked := by
  rcases checkFrom_cases hticketed hnodup hmem with ⟨-, hk⟩ | ⟨-, h₁, -, -, hk, -⟩
  · exact hk
  · rcases r.check_cases now id h₁ with ⟨reason, he⟩ | he <;> rw [hk, he] <;> nofun

/-! ### The judgement -/

theorem map_fst_judgeAll (r : Round) (h : Switchboard) :
    (r.judgeAll h).candidates.map (·.1) = r.candidates.map (·.1) := by
  simp [judgeAll, Function.comp_def]

/-- A connection that is judged was known before, and at most its ping has come to something. -/
theorem mem_judgeAll (hmem : (id, k) ∈ (r.judgeAll h).candidates) :
    ∃ k', (id, k') ∈ r.candidates ∧ k = judge h k' := by
  obtain ⟨⟨id', k'⟩, hold, he⟩ := List.mem_map.1 hmem
  obtain ⟨rfl, rfl⟩ := Prod.mk.inj he
  exact ⟨k', hold, rfl⟩

/-- A connection whose ping did not fail is not dead. -/
theorem judge_pinged (hverdict : h.verdict? t ≠ some false) :
    judge h (.pinged t) = .alive ∨ judge h (.pinged t) = .pinged t := by
  unfold judge
  dsimp only
  split
  · exact Or.inl rfl
  · next hv => exact absurd hv hverdict
  · exact Or.inr rfl

/-- A connection that is not judged is what it was before. -/
theorem judge_eq (hnot : (judge h k).isJudged = false) : judge h k = k := by
  cases k with
  | pinged t =>
    unfold judge at hnot ⊢
    dsimp only at hnot ⊢
    split at hnot
    · exact absurd hnot nofun
    · exact absurd hnot nofun
    · rfl
  | _ => rfl

/-- A connection whose ping is not open is judged. -/
theorem isJudged_judge (hlooked : k ≠ .unchecked)
    (hopen : ∀ t, k = .pinged t → h.verdict? t ≠ none) : (judge h k).isJudged = true := by
  cases k with
  | unchecked => exact absurd rfl hlooked
  | pinged t =>
    unfold judge
    dsimp only
    split
    · rfl
    · rfl
    · next hv => exact absurd hv (hopen t rfl)
  | alive => rfl
  | dead reason => rfl

/-! ### The end -/

theorem mem_dead : id ∈ r.dead ↔ ∃ reason, (id, .dead reason) ∈ r.candidates := by
  unfold dead
  simp only [List.mem_map, List.mem_filter, Prod.exists, exists_and_right, exists_eq_right]
  constructor
  · rintro ⟨k, hmem, hdead⟩
    cases k with
    | dead reason => exact ⟨reason, hmem⟩
    | _ => exact absurd hdead (by simp [Candidacy.isDead])
  · rintro ⟨reason, hmem⟩
    exact ⟨_, hmem, rfl⟩

theorem evictAll_cons (id : ConnectionId) (rest : List ConnectionId) (h : Switchboard) :
    (evictAll (id :: rest) h).2 = (evictAll rest (h.evict id).2).2 := rfl

theorem carries_evictAll (ids : List ConnectionId) : h.Carries heard (evictAll ids h).2 := by
  induction ids generalizing h with
  | nil => exact .refl h
  | cons id rest ih => exact (Switchboard.carries_evict id).trans ih

theorem follows_evictAll (ids : List ConnectionId) : h.Follows new (evictAll ids h).2 := by
  induction ids generalizing h with
  | nil => exact .refl h
  | cons id rest ih => exact (Switchboard.follows_evict id).trans ih

/-- **The end of a round** takes out only the connections that are dead. -/
theorem keeps_evictAll (ids : List ConnectionId) : h.Keeps (· ∈ ids) (evictAll ids h).2 := by
  induction ids generalizing h with
  | nil => exact .refl h
  | cons id rest ih =>
    have hfirst : h.Keeps (· ∈ id :: rest) (h.evict id).2 :=
      (Switchboard.keeps_evict id).mono fun _ he => List.mem_cons.2 (Or.inl he)
    exact hfirst.trans (ih.mono fun _ => List.mem_cons_of_mem _)

/-- And it does nothing at all to the others. -/
theorem connection?_evictAll {ids : List ConnectionId} (hnot : id ∉ ids) :
    (evictAll ids h).2.connection? id = h.connection? id := by
  induction ids generalizing h with
  | nil => rfl
  | cons id' rest ih =>
    have hne : id ≠ id' := List.ne_of_not_mem_cons hnot
    have hrest : id ∉ rest := List.not_mem_of_not_mem_cons hnot
    rw [evictAll_cons, ih hrest]
    rcases h.evict_cases id' with he | ⟨user, he⟩ <;> rw [he]
    rw [Switchboard.close, Switchboard.connection?_update, if_neg hne, Switchboard.connection?,
      h.connections_unregister user id']
    rfl

end Rendezvous.Round
