import ContainerBoard.Config
import ContainerBoard.Proofs.Number.Unsigned

/-!
# Settings from the environment

Three settings are numbers that variables of the environment give, and a fourth is a text.
Each is read from its own variable and from nothing else.  A variable that is set to what is
not taken is warned about, and its setting keeps the default.
-/

namespace ContainerBoard.Config

/-- The settings that are numbers in the environment. -/
inductive Quantity where
  | reportTtl
  | cleanupInterval
  | outboxCapacity

namespace Quantity

def all : List Quantity := [reportTtl, cleanupInterval, outboxCapacity]

/-- The variable that gives the setting. -/
def variableName : Quantity → String
  | reportTtl => reportTtlVariable
  | cleanupInterval => cleanupVariable
  | outboxCapacity => outboxVariable

/-- How the setting is counted: durations are given in seconds and kept in milliseconds. -/
def scale : Quantity → Nat
  | reportTtl => 1000
  | cleanupInterval => 1000
  | outboxCapacity => 1

/-- The setting in a configuration. -/
def of : Quantity → Config → Nat
  | reportTtl, c => c.reportTtl
  | cleanupInterval, c => c.cleanupInterval
  | outboxCapacity, c => c.outboxCapacity

/-- Whether a number makes sense for the setting. -/
def Allows : Quantity → Nat → Prop
  | cleanupInterval, n => 0 < n
  | _, _ => True

/-- The variable is set to a number that makes sense. -/
def Takes (q : Quantity) (env : Environment) (n : Nat) : Prop :=
  ∃ raw, env q.variableName = some raw ∧ Denotes raw n ∧ q.Allows n

/-- The variable is set to something else. -/
def Refuses (q : Quantity) (env : Environment) : Prop :=
  (∃ raw, env q.variableName = some raw) ∧ ∀ n, ¬ q.Takes env n

/-- What is left of what a variable says. -/
def effective : Quantity → Setting → Setting
  | reportTtl, s => s
  | cleanupInterval, s => s.positive
  | outboxCapacity, s => s

/-- What the log says about what a variable says. -/
def complaints : Quantity → Setting → List LogLine
  | reportTtl, s => s.warnings reportTtlVariable
  | cleanupInterval, s => s.warnings cleanupVariable ++ s.positiveWarnings cleanupVariable
  | outboxCapacity, s => s.warnings outboxVariable

/-- The part of the log that is about the variable. -/
def warnings (q : Quantity) (env : Environment) : List LogLine :=
  q.complaints (setting env q.variableName)

/-- The setting follows its variable, and a warning names the variable if it is refused. -/
structure IsRead (q : Quantity) (env : Environment) (c : Config) : Prop where
  taken : ∀ n, q.Takes env n → q.of c = q.scale * n
  otherwise : (∀ n, ¬ q.Takes env n) → q.of c = q.of {}
  warned : q.Refuses env →
    ∃ front back, q.warnings env = [.warn (front ++ q.variableName ++ back)]
  silent : ¬ q.Refuses env → q.warnings env = []

end Quantity

/-! ## What a variable says -/

variable {env other : Environment} {name raw : String} {n : Nat} {q : Quantity}

theorem setting_congr (h : other name = env name) : setting other name = setting env name := by
  rw [setting, setting, h]

theorem setting_of_denotes (hraw : env name = some raw) (hn : Denotes raw n) :
    setting env name = .value n := by
  rw [setting, hraw]
  simp only [unsigned64?_trim_eq_some_iff.mpr hn]

theorem setting_of_not_denotes (hraw : env name = some raw) (hnone : ∀ n, ¬ Denotes raw n) :
    setting env name = .invalid raw := by
  have hread : unsigned64? (Text.trim raw.toList) = none :=
    Option.eq_none_iff_forall_ne_some.mpr fun n hn =>
      hnone n (unsigned64?_trim_eq_some_iff.mp hn)
  rw [setting, hraw]
  simp only [hread]

namespace Quantity

/-- Only a number that is not positive makes no sense, and that for one setting only. -/
theorem eq_zero_of_not_allows (h : ¬ q.Allows n) : q = cleanupInterval ∧ n = 0 := by
  cases q with
  | cleanupInterval => exact ⟨rfl, Nat.eq_zero_of_not_pos h⟩
  | reportTtl | outboxCapacity => exact absurd trivial h

theorem effective_unset (q : Quantity) : q.effective .unset = .unset := by
  cases q with
  | reportTtl | cleanupInterval | outboxCapacity => rfl

theorem complaints_unset (q : Quantity) : q.complaints .unset = [] := by
  cases q with
  | reportTtl | cleanupInterval | outboxCapacity => rfl

theorem effective_invalid (q : Quantity) (raw : String) :
    q.effective (.invalid raw) = .invalid raw := by
  cases q with
  | reportTtl | cleanupInterval | outboxCapacity => rfl

theorem effective_of_allows (h : q.Allows n) : q.effective (.value n) = .value n := by
  cases q with
  | cleanupInterval =>
      obtain ⟨m, rfl⟩ := Nat.exists_eq_succ_of_ne_zero (Nat.pos_iff_ne_zero.mp h)
      rfl
  | reportTtl | outboxCapacity => rfl

theorem complaints_of_allows (h : q.Allows n) : q.complaints (.value n) = [] := by
  cases q with
  | cleanupInterval =>
      obtain ⟨m, rfl⟩ := Nat.exists_eq_succ_of_ne_zero (Nat.pos_iff_ne_zero.mp h)
      rfl
  | reportTtl | outboxCapacity => rfl

theorem complaints_of_not_allows (h : ¬ q.Allows n) :
    ∃ front back, q.complaints (.value n) = [.warn (front ++ q.variableName ++ back)] := by
  obtain ⟨rfl, rfl⟩ := eq_zero_of_not_allows h
  refine ⟨"", " must be positive, using default", ?_⟩
  rw [String.empty_append]
  rfl

theorem complaints_invalid (q : Quantity) (raw : String) :
    ∃ front back, q.complaints (.invalid raw) = [.warn (front ++ q.variableName ++ back)] := by
  refine ⟨"Ignoring invalid ", "=" ++ Text.quoted raw, ?_⟩
  rw [← String.append_assoc]
  cases q with
  | reportTtl | cleanupInterval | outboxCapacity => rfl

/-! ## The settings -/

theorem of_ofEnvironment (q : Quantity) (env : Environment) :
    q.of (ofEnvironment env) =
      match q.effective (setting env q.variableName) with
      | .value n => q.scale * n
      | _ => q.of {} := by
  cases q with
  | reportTtl | cleanupInterval => rfl
  | outboxCapacity =>
      change (setting env outboxVariable).getD 0 = _
      rw [variableName, effective, scale]
      cases setting env outboxVariable with
      | value n => exact (Nat.one_mul n).symm
      | unset | invalid => rfl

/-- A variable is taken, and then in silence; or it is unset; or it is refused with one
warning.  In the last two cases the setting keeps its default. -/
theorem takes_or_unset_or_refuses (q : Quantity) (env : Environment) :
    (∃ n, q.Takes env n ∧ q.of (ofEnvironment env) = q.scale * n ∧ q.warnings env = []) ∨
    (env q.variableName = none ∧ q.of (ofEnvironment env) = q.of {} ∧ q.warnings env = []) ∨
    (q.Refuses env ∧ q.of (ofEnvironment env) = q.of {} ∧
      ∃ front back, q.warnings env = [.warn (front ++ q.variableName ++ back)]) := by
  rw [of_ofEnvironment, warnings]
  rcases hraw : env q.variableName with _ | raw
  · have hsetting : setting env q.variableName = .unset := by
      rw [setting, hraw]
    rw [hsetting, effective_unset]
    exact .inr (.inl ⟨rfl, rfl, q.complaints_unset⟩)
  · by_cases hdenotes : ∃ n, Denotes raw n
    · obtain ⟨n, hn⟩ := hdenotes
      rw [setting_of_denotes hraw hn]
      by_cases hallows : q.Allows n
      · refine .inl ⟨n, ⟨raw, hraw, hn, hallows⟩, ?_, complaints_of_allows hallows⟩
        rw [effective_of_allows hallows]
      · refine .inr (.inr ⟨⟨⟨raw, hraw⟩, ?_⟩, ?_, complaints_of_not_allows hallows⟩)
        · rintro m ⟨raw', hraw', hm, hallows'⟩
          obtain rfl : raw = raw' := Option.some.inj (hraw.symm.trans hraw')
          exact hallows (hn.unique hm ▸ hallows')
        · obtain ⟨rfl, rfl⟩ := eq_zero_of_not_allows hallows
          rfl
    · rw [not_exists] at hdenotes
      rw [setting_of_not_denotes hraw hdenotes, effective_invalid]
      refine .inr (.inr ⟨⟨⟨raw, hraw⟩, ?_⟩, rfl, q.complaints_invalid raw⟩)
      rintro m ⟨raw', hraw', hm, -⟩
      obtain rfl : raw = raw' := Option.some.inj (hraw.symm.trans hraw')
      exact hdenotes m hm

theorem Takes.unique {m : Nat} (hn : q.Takes env n) (hm : q.Takes env m) : n = m := by
  obtain ⟨raw, hraw, hdenotes, -⟩ := hn
  obtain ⟨raw', hraw', hdenotes', -⟩ := hm
  obtain rfl : raw = raw' := Option.some.inj (hraw.symm.trans hraw')
  exact hdenotes.unique hdenotes'

theorem isRead_ofEnvironment (q : Quantity) (env : Environment) :
    q.IsRead env (ofEnvironment env) := by
  rcases q.takes_or_unset_or_refuses env with
    ⟨n, htakes, hof, hsilent⟩ | ⟨hunset, hof, hsilent⟩ | ⟨hrefuses, hof, hwarned⟩
  · refine ⟨fun m hm => ?_, fun hnone => absurd htakes (hnone n), fun hrefuses => ?_,
      fun _ => hsilent⟩
    · rw [hof, htakes.unique hm]
    · exact absurd htakes (hrefuses.2 n)
  · refine ⟨?_, fun _ => hof, ?_, fun _ => hsilent⟩
    · rintro m ⟨raw, hraw, -⟩
      rw [hunset] at hraw
      cases hraw
    · rintro ⟨⟨raw, hraw⟩, -⟩
      rw [hunset] at hraw
      cases hraw
  · exact ⟨fun m hm => absurd hm (hrefuses.2 m), fun _ => hof, fun _ => hwarned,
      fun hnot => absurd hrefuses hnot⟩

theorem of_ofEnvironment_congr (h : other q.variableName = env q.variableName) :
    q.of (ofEnvironment other) = q.of (ofEnvironment env) := by
  rw [of_ofEnvironment, of_ofEnvironment, setting_congr h]

theorem warnings_congr (h : other q.variableName = env q.variableName) :
    q.warnings other = q.warnings env := by
  rw [warnings, warnings, setting_congr h]

theorem allows_cleanupInterval : cleanupInterval.Allows n ↔ 0 < n :=
  Iff.rfl

end Quantity

/-- However the variables are set, the caches are cleaned up once in a while. -/
theorem cleanupInterval_pos (env : Environment) : 0 < (ofEnvironment env).cleanupInterval := by
  change 0 < Quantity.cleanupInterval.of (ofEnvironment env)
  rcases Quantity.cleanupInterval.takes_or_unset_or_refuses env with
    ⟨n, ⟨raw, -, -, hallows⟩, hof, -⟩ | ⟨-, hof, -⟩ | ⟨-, hof, -⟩
  · rw [hof]
    exact Nat.mul_pos (by decide) (Quantity.allows_cleanupInterval.mp hallows)
  · rw [hof]
    decide
  · rw [hof]
    decide

theorem environmentLog_eq (env : Environment) :
    environmentLog env = Quantity.all.flatMap (·.warnings env) := by
  simp [environmentLog, Quantity.all, Quantity.warnings, Quantity.complaints,
    Quantity.variableName]

/-! ## The filter of the log -/

/-- The text has something to say. -/
def IsWritten (raw : String) : Prop :=
  ∃ ch ∈ raw.toList, Text.isBlank ch = false

theorem isWritten_iff : IsWritten raw ↔ (!Text.isAllBlank raw.toList) = true := by
  simp [IsWritten, Text.isAllBlank]

theorem logFilter_of_isWritten (hraw : env logVariable = some raw) (h : IsWritten raw) :
    (ofEnvironment env).logFilter = raw := by
  have hfilter : filterSetting env = some raw := by
    rw [filterSetting, hraw, Option.filter_some, if_pos (isWritten_iff.mp h)]
  simp only [ofEnvironment, hfilter, Option.getD_some]

theorem logFilter_of_not_isWritten (h : ∀ raw, env logVariable = some raw → ¬ IsWritten raw) :
    (ofEnvironment env).logFilter = ({} : Config).logFilter := by
  have hfilter : filterSetting env = none :=
    Option.filter_eq_none_iff.mpr fun raw hraw hwritten => h raw hraw (isWritten_iff.mpr hwritten)
  simp only [ofEnvironment, hfilter, Option.getD_none]

theorem logFilter_congr (h : other logVariable = env logVariable) :
    (ofEnvironment other).logFilter = (ofEnvironment env).logFilter := by
  simp only [ofEnvironment, filterSetting, h]

/-- A numeric setting follows its variable, with one warning if the variable is set and
refused; the filter is what its variable says, as it stands there; no other setting comes
from the environment, and nothing else is warned about.  The variables are distinct, and
what one of them gives does not change with the others. -/
theorem settings_read_variable_by_variable (env : Environment) :
    let c := ofEnvironment env
    (∀ q : Quantity, q.IsRead env c) ∧
    0 < c.cleanupInterval ∧
    (∀ raw, env logVariable = some raw → IsWritten raw → c.logFilter = raw) ∧
    ((∀ raw, env logVariable = some raw → ¬ IsWritten raw) →
      c.logFilter = ({} : Config).logFilter) ∧
    c = { ({} : Config) with
      reportTtl := c.reportTtl
      cleanupInterval := c.cleanupInterval
      outboxCapacity := c.outboxCapacity
      logFilter := c.logFilter } ∧
    environmentLog env = Quantity.all.flatMap (·.warnings env) ∧
    (Quantity.all.map Quantity.variableName ++ [logVariable]).Nodup ∧
    ∀ other : Environment,
      (∀ q : Quantity, other q.variableName = env q.variableName →
        q.of (ofEnvironment other) = q.of c ∧ q.warnings other = q.warnings env) ∧
      (other logVariable = env logVariable → (ofEnvironment other).logFilter = c.logFilter) := by
  refine ⟨fun q => q.isRead_ofEnvironment env, cleanupInterval_pos env,
    fun raw hraw => logFilter_of_isWritten hraw, logFilter_of_not_isWritten, rfl,
    environmentLog_eq env, by decide, fun other => ⟨fun q h => ⟨?_, ?_⟩, logFilter_congr⟩⟩
  · exact q.of_ofEnvironment_congr h
  · exact q.warnings_congr h

/-- Blanks around a number, a sign and zeros in front of it count for nothing, and 64 bits are
enough or the default stays. -/
example :
    (ofEnvironment fun _ => some " +08\t").reportTtl = 8000 ∧
      (ofEnvironment fun _ => some "18446744073709551616").reportTtl = 30000 := by
  decide

end ContainerBoard.Config
