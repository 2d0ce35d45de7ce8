import Accounts.Proofs.Json.Extent
import Accounts.Settings

/-! # What an environment decides

An environment is read as a whole or refused, whatever its other variables are. What is read has a
secret, and lifetimes that are positive unless there is a warning.
-/
namespace Accounts

variable {source : Source} {env env' : Environment} {t : Settings} {ls : Lifetimes} {v : Variable}

def Variable.counts : List Variable :=
  [.accessMinutes, .refreshHours, .resetMinutes, .rounds]

structure Environment.IsReadable (env : Environment) : Prop where
  possible : env.isPossible = true
  counts : ∀ v ∈ Variable.counts, (Text.Integer.ofDecimal? (env.value v)).isSome = true

/-- Reading succeeds exactly if a condition holds, and there is one way to fail. -/
def ReadsIf {α : Type} (p : Prop) (x : Except Breakage α) : Prop :=
  p ∧ (∃ a, x = .ok a) ∨ ¬ p ∧ x = .error .value

theorem ReadsIf.bind {α β : Type} {p q : Prop} {x : Except Breakage α} {f : α → Except Breakage β}
    (hx : ReadsIf p x) (hf : ∀ a, ReadsIf q (f a)) : ReadsIf (p ∧ q) (x >>= f) := by
  obtain ⟨hp, a, rfl⟩ | ⟨hp, rfl⟩ := hx
  · obtain ⟨hq, hok⟩ | ⟨hq, herror⟩ := hf a
    · exact .inl ⟨⟨hp, hq⟩, hok⟩
    · exact .inr ⟨fun h => hq h.2, herror⟩
  · exact .inr ⟨fun h => hp h.1, rfl⟩

theorem readsIf_count (env : Environment) (v : Variable) :
    ReadsIf ((Text.Integer.ofDecimal? (env.value v)).isSome = true) (env.count v) := by
  unfold Environment.count
  cases Text.Integer.ofDecimal? (env.value v) with
  | some n => exact .inl ⟨rfl, n, rfl⟩
  | none => exact .inr ⟨Bool.false_ne_true, rfl⟩

theorem count_ok {n : Int} (h : env.count v = .ok n) :
    Text.Integer.ofDecimal? (env.value v) = some n := by
  unfold Environment.count at h
  split at h
  · next heq =>
    cases h
    exact heq
  · cases h

theorem isReadable_iff : env.IsReadable ↔ env.isPossible = true ∧
    ∀ v ∈ Variable.counts, (Text.Integer.ofDecimal? (env.value v)).isSome = true :=
  ⟨fun h => ⟨h.possible, h.counts⟩, fun h => ⟨h.1, h.2⟩⟩

theorem readsIf_settings (source : Source) (env : Environment) :
    ReadsIf env.IsReadable (Settings.ofEnvironment source env) := by
  rw [isReadable_iff]
  simp only [Variable.counts, List.forall_mem_cons]
  unfold Settings.ofEnvironment
  by_cases hpossible : env.isPossible = true
  · simp only [hpossible, true_and]
    refine .bind (readsIf_count env .accessMinutes) fun access => ?_
    refine .bind (readsIf_count env .refreshHours) fun refresh => ?_
    refine .bind (readsIf_count env .resetMinutes) fun reset => ?_
    refine .bind (readsIf_count env .rounds) fun rounds => ?_
    exact .inl ⟨by simp, _, rfl⟩
  · exact .inr ⟨fun h => hpossible h.1, by simp only [hpossible]; rfl⟩

theorem settings_ok (h : Settings.ofEnvironment source env = .ok t) :
    Text.Integer.ofDecimal? (env.value .accessMinutes) = some t.accessMinutes ∧
      Text.Integer.ofDecimal? (env.value .refreshHours) = some t.refreshHours ∧
      Text.Integer.ofDecimal? (env.value .resetMinutes) = some t.resetMinutes ∧
      t.secret = if (env.value .secret).isEmpty then
        Service.secretText (source.secret 0 Settings.secretSize) else env.value .secret := by
  have hreadable : env.IsReadable := by
    obtain ⟨hreadable, -⟩ | ⟨-, herror⟩ := readsIf_settings source env
    · exact hreadable
    · rw [herror] at h
      cases h
  unfold Settings.ofEnvironment at h
  simp only [hreadable.possible] at h
  obtain ⟨access, haccess, h⟩ := Json.ok_of_bind h
  obtain ⟨refresh, hrefresh, h⟩ := Json.ok_of_bind h
  obtain ⟨reset, hreset, h⟩ := Json.ok_of_bind h
  obtain ⟨rounds, -, h⟩ := Json.ok_of_bind h
  cases h
  exact ⟨count_ok haccess, count_ok hrefresh, count_ok hreset, rfl⟩

theorem secret_ne_empty (h : Settings.ofEnvironment source env = .ok t) : t.secret ≠ "" := by
  rw [(settings_ok h).2.2.2]
  split
  · intro hempty
    have hlength := congrArg (fun s => s.toList.length) hempty
    simp [Service.secretText, Encoding.Base64.encode, Encoding.length_encodeSextets,
      Settings.secretSize] at hlength
  · next hgiven =>
    intro hempty
    exact hgiven (by rw [hempty]; rfl)

theorem settings_of_named (h : ∀ v : Variable, env v.name = env' v.name) :
    Settings.ofEnvironment source env = Settings.ofEnvironment source env' := by
  have hvalue : env.value = env'.value := funext fun v => by rw [Environment.value, h]; rfl
  have hpossible : env.isPossible = env'.isPossible := by
    simp only [Environment.isPossible, h]
  have hcount : env.count = env'.count := funext fun v => by
    simp only [Environment.count, hvalue]
  simp only [Settings.ofEnvironment, hvalue, hpossible, hcount]

theorem lifetimes_ok (h : t.lifetimes = .ok ls) :
    ls = ⟨t.accessMinutes * Time.minute, t.refreshHours * Time.hour,
      t.resetMinutes * Time.minute⟩ := by
  simp only [Settings.lifetimes, Lifetimes.ofCounts] at h
  split at h
  · cases h
    rfl
  · cases h

theorem notPositive_mem_warnings : .notPositive v ∈ t.warnings ↔
    v = .accessMinutes ∧ t.accessMinutes ≤ 0 ∨ v = .refreshHours ∧ t.refreshHours ≤ 0 ∨
      v = .resetMinutes ∧ t.resetMinutes ≤ 0 := by
  simp only [Settings.warnings, List.mem_append, List.mem_ite_nil_right, List.mem_singleton,
    Warning.notPositive.injEq, reduceCtorEq, and_false, false_or, or_false, or_assoc]
  simp only [and_comm]

theorem lifetimes_positive_iff (h : t.lifetimes = .ok ls) :
    (0 < ls.access ∧ 0 < ls.refresh ∧ 0 < ls.reset) ↔ ∀ v, .notPositive v ∉ t.warnings := by
  have hwarned : (∀ v, .notPositive v ∉ t.warnings) ↔
      0 < t.accessMinutes ∧ 0 < t.refreshHours ∧ 0 < t.resetMinutes := by
    simp [notPositive_mem_warnings, forall_and]
  have scaled : ∀ n k : Int, 0 < k → (0 < n * k ↔ 0 < n) := fun n k hk =>
    ⟨fun h => Int.pos_of_mul_pos_left h hk, fun h => Int.mul_pos h hk⟩
  rw [lifetimes_ok h, hwarned]
  simp only [scaled _ Time.minute (by decide), scaled _ Time.hour (by decide)]

theorem defaults_readable : Environment.IsReadable fun _ => none :=
  ⟨by decide, by decide⟩

theorem standard_lifetimes (h : Settings.ofEnvironment source (fun _ => none) = .ok t) :
    t.lifetimes = .ok .standard := by
  obtain ⟨haccess, hrefresh, hreset, -⟩ := settings_ok h
  have access : t.accessMinutes = 15 := Option.some.inj (haccess.symm.trans (by decide))
  have refresh : t.refreshHours = 168 := Option.some.inj (hrefresh.symm.trans (by decide))
  have reset : t.resetMinutes = 30 := Option.some.inj (hreset.symm.trans (by decide))
  rw [Settings.lifetimes, access, refresh, reset]
  rfl

end Accounts
