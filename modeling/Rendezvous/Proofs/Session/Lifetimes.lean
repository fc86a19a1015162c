import Rendezvous.Proofs.Service.Requests
import Rendezvous.Proofs.Session.SingleUse
import Rendezvous.Proofs.Settings.Environment
import Rendezvous.Session.KeyServer

/-!
# How long session tokens live

The life of session tokens is configured in seconds, any positive number of them that 64 bits hold,
and on its way to a token it is counted in three ways. The ledger adds it to a reading of the clock,
which counts seconds in 64 bits with a sign. A key server is told milliseconds, in 64 bits without a
sign. So each of them has a limit of its own, and both are below what can be configured
(`not_livesExactly`).

What happens at the limits differs. The ledger gives out no token whose end the clock cannot reach,
and every token that it does give out lives exactly as long as it is to. The key server is told what
is left of the milliseconds in 64 bits: the life is exact up to `KeySession.longestExact` seconds,
and always too short beyond (`lifetimes_of_environment`).
-/

namespace Rendezvous

variable {env : Environment} {settings : Settings} {n : Nat}

/-! ### Milliseconds -/

theorem wholeMillis_ofSeconds (n : Nat) : wholeMillis (ofSeconds n) = 1000 * n := by
  unfold wholeMillis ofSeconds
  omega

namespace KeySession

/-- The greatest number of seconds whose milliseconds 64 bits hold. -/
def longestExact : Nat := 18446744073709551

/-- Up to the longest exact life, milliseconds are counted as they are. -/
theorem millis_of_le {life : Nanos} (h : life ≤ ofSeconds longestExact) :
    millis life = max 1 (wholeMillis life) := by
  have hlt : wholeMillis life < 18446744073709551616 :=
    Nat.div_lt_of_lt_mul (Nat.lt_of_le_of_lt h (by decide))
  rw [millis, Nat.mod_eq_of_lt hlt]

/-- **A life beyond it is cut**: fewer milliseconds are counted than there are. -/
theorem millis_lt {life : Nanos} (hseconds : life = ofSeconds n)
    (h : ofSeconds longestExact < life) : millis life < wholeMillis life := by
  subst hseconds
  have hn : longestExact < n := Nat.lt_of_mul_lt_mul_right h
  have hover : 18446744073709551616 ≤ 1000 * n :=
    Nat.le_trans (by decide) (Nat.mul_le_mul_left 1000 hn)
  have hrest : 1000 * n % 18446744073709551616 < 18446744073709551616 :=
    Nat.mod_lt _ (by decide)
  rw [millis, wholeMillis_ofSeconds]
  exact Nat.max_lt.2 ⟨Nat.lt_of_lt_of_le (by decide) hover, Nat.lt_of_lt_of_le hrest hover⟩

theorem millis_pos (life : Nanos) : 0 < millis life :=
  Nat.lt_of_lt_of_le Nat.one_pos (Nat.le_max_left ..)

example : millis (ofSeconds (longestExact + 1)) = 384 := by decide

end KeySession

/-! ### What is configured -/

namespace Settings

/-- How long a session token is to live. -/
def life (s : Settings) : Nanos :=
  ofSeconds s.sessionSeconds.toNat

/-- **Whoever asks for a session token asks for one of this life**, in answering any request. -/
theorem issue_obeys_life (s : Settings) (sharing : Sharing) (r : Http.Request) :
    (Http.handle (s.terms sharing) r).Obeys
      (fun _ call => ∀ user life, call = .issue user life → life = s.life)
      (fun _ _ => True) [] := by
  refine (Http.handle_obeys (s.terms sharing) r).mono ?_ fun _ _ _ => trivial
  rintro past call hcall user life rfl
  cases hcall
  rfl

end Settings

/-! ### The lifetimes -/

/-- **Lifetimes are exact, whatever is configured**: the ledger gives out every token until exactly
the end of its life, the key server is told every whole millisecond of it, and no token that is to
live longer lives shorter. -/
def LivesExactly : Prop :=
  ∀ (env : Environment) (settings : Settings), Settings.ofEnvironment env = .ok settings →
    (∀ (l : Ledger) (now : Nanos) (token : String) (user : UserId), now < clockEnd →
      ∃ l', l.issue? now token user settings.life = some l' ∧
        l'.held? token = some ⟨user, now + settings.life⟩) ∧
    (∀ (token : String) (user : UserId), KeySession.issue token user settings.life =
      .set (KeySession.key token) (Numeral.printInt user.toInt)
        (max 1 (wholeMillis settings.life))) ∧
    ∀ (env' : Environment) (settings' : Settings), Settings.ofEnvironment env' = .ok settings' →
      settings.life ≤ settings'.life →
        KeySession.millis settings.life ≤ KeySession.millis settings'.life

/-- **How long session tokens live** with the settings of an environment. -/
structure Lifetimes (env : Environment) (settings : Settings) : Prop where
  /-- Every positive number of seconds that is configured is the life of the tokens. -/
  configured : ∀ n, env.number? "SESSION_TOKEN_TTL_SECS" Settings.greatest64 = some n → 0 < n →
    settings.life = ofSeconds n
  /-- They live for some time in any case. -/
  positive : 0 < settings.life
  /-- This is the life that is asked for, in answering any request. -/
  asked : ∀ (sharing : Sharing) (r : Http.Request), (Http.handle (settings.terms sharing) r).Obeys
    (fun _ call => ∀ user life, call = .issue user life → life = settings.life)
    (fun _ _ => True) []
  /-- The ledger gives a token out exactly if the clock can count to the end of its life. -/
  given_iff : ∀ (l : Ledger) (now : Nanos) (token : String) (user : UserId),
    (l.issue? now token user settings.life).isSome = true ↔ now + settings.life < clockEnd
  /-- A token that is given out can be used up to exactly this end. -/
  used_in_time : ∀ (l l' : Ledger) (now : Nanos) (token : String) (user : UserId),
    l.issue? now token user settings.life = some l' →
      l'.held? token = some ⟨user, now + settings.life⟩ ∧
      ∀ later user', (l'.redeem later token).1 = some user' ↔
        later < now + settings.life ∧ user = user'
  /-- The key server is told the whole milliseconds of a life that is not too long. -/
  told_exactly : settings.life ≤ ofSeconds KeySession.longestExact → ∀ (token : String) (user : UserId),
    KeySession.issue token user settings.life =
      .set (KeySession.key token) (Numeral.printInt user.toInt) (max 1 (wholeMillis settings.life))
  /-- Of a life that is too long it is told fewer, but some. -/
  shortened : ofSeconds KeySession.longestExact < settings.life →
    ∀ (token : String) (user : UserId), ∃ millis, KeySession.issue token user settings.life =
      .set (KeySession.key token) (Numeral.printInt user.toInt) millis ∧
        0 < millis ∧ millis < wholeMillis settings.life
  /-- A life that is longer, and not too long, is not told as a shorter one. -/
  longer : ∀ longer, settings.life ≤ longer → longer ≤ ofSeconds KeySession.longestExact →
    KeySession.millis settings.life ≤ KeySession.millis longer

/-- **Session tokens live as long as configured** where the clock of the ledger and the milliseconds
of the key server reach that far; beyond, the ledger refuses and the key server is told less. -/
theorem lifetimes_of_environment (henv : Settings.ofEnvironment env = .ok settings) :
    Lifetimes env settings where
  configured n hnumber hpos := by
    rw [Settings.life, Settings.sessionSeconds_of_environment henv,
      Settings.seconds_of_number hnumber hpos]
  positive := by
    have hpos : 0 < settings.sessionSeconds.toNat := by
      rw [Settings.sessionSeconds_of_environment henv]
      exact Settings.seconds_pos (by decide) (by decide)
    exact Nat.mul_pos hpos (by decide)
  asked := settings.issue_obeys_life
  given_iff l now token user := by
    unfold Ledger.issue?
    split
    · next hend => exact iff_of_true rfl hend
    · next hend => exact iff_of_false (by simp) hend
  used_in_time l l' now token user hissue := by
    have hheld : l'.held? token = some ⟨user, now + settings.life⟩ := by
      rw [Ledger.held?_issue? hissue, if_pos rfl]
    refine ⟨hheld, fun later user' => ?_⟩
    rw [Ledger.redeem_fst_eq_some_iff, hheld]
    simp
  told_exactly hle token user := congrArg (KeyCommand.set _ _) (KeySession.millis_of_le hle)
  shortened hlt token user :=
    ⟨KeySession.millis settings.life, rfl, KeySession.millis_pos _, KeySession.millis_lt rfl hlt⟩
  longer longer hle hlong := by
    rw [KeySession.millis_of_le (Nat.le_trans hle hlong), KeySession.millis_of_le hlong]
    have hmillis : wholeMillis settings.life ≤ wholeMillis longer := Nat.div_le_div_right hle
    omega

/-- The longest life that can be configured. -/
def longestLife : Environment :=
  [("SESSION_TOKEN_TTL_SECS", "18446744073709551615")]

/-- The settings with this life. -/
def longestSettings : Settings :=
  { Settings.default with sessionSeconds := 18446744073709551615 }

theorem lifetimes_of_environment_sample :
    Settings.ofEnvironment longestLife = .ok longestSettings ∧
      Lifetimes longestLife longestSettings := by
  have henv : Settings.ofEnvironment longestLife = .ok longestSettings := by rfl
  exact ⟨henv, lifetimes_of_environment henv⟩

/-- **Lifetimes are not always exact**: the clock does not reach the end of the longest life that can
be configured, so the ledger gives out no token at all. -/
theorem not_livesExactly : ¬LivesExactly := by
  intro hexactly
  have henv : Settings.ofEnvironment longestLife = .ok longestSettings := by rfl
  obtain ⟨l', hissue, -⟩ := (hexactly longestLife longestSettings henv).1 .empty 0 "t" 7 (by decide)
  have hend : ¬0 + longestSettings.life < clockEnd := by decide
  rw [Ledger.issue?, if_neg hend] at hissue
  exact absurd hissue (by simp)

end Rendezvous
