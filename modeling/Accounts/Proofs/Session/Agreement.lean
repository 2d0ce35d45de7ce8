import Accounts.Proofs.Number.Rounding
import Accounts.Proofs.Session.Serving

/-! # Both kinds of session store

The server keeps an entry for whole seconds, rounded up and at least one; memory keeps it for the
time it was given. Until the difference is over the server may answer what memory no longer does.
Each write brings the two together again.
-/
namespace Accounts.Session

variable {now : Instant} {ttl : Int} {x : Timed}

def Operation.ttl? : Operation → Option Duration
  | .put _ _ ttl => some ttl
  | _ => none

theorem serverLifetime_eq (h : Time.IsExact ttl) :
    Backing.server.lifetime ttl = max 1 (-(-ttl / Time.second)) * Time.second := by
  rw [Backing.lifetime, ttlSeconds, Time.ceilSeconds_eq h]

theorem memoryLifetime_le (h : Time.IsExact ttl) :
    Backing.memory.lifetime ttl ≤ Backing.server.lifetime ttl := by
  have hround : ttl ≤ max 1 (-(-ttl / 1000000)) * 1000000 := by omega
  rw [serverLifetime_eq h]
  exact hround

theorem serverLifetime_le (h : Time.IsExact ttl) (positive : 0 ≤ ttl) :
    Backing.server.lifetime ttl ≤ ttl + Time.second := by
  have hround : max 1 (-(-ttl / 1000000)) * 1000000 ≤ ttl + 1000000 := by omega
  rw [serverLifetime_eq h]
  exact hround

theorem lifetime_of_wholeSeconds (h : Time.IsExact ttl) (positive : 0 < ttl)
    (whole : Time.second ∣ ttl) : Backing.server.lifetime ttl = Backing.memory.lifetime ttl := by
  obtain ⟨n, rfl⟩ := whole
  have hpositive : 0 < 1000000 * n := positive
  have hround : max 1 (-(-(1000000 * n) / 1000000)) * 1000000 = 1000000 * n := by omega
  rw [serverLifetime_eq h]
  exact hround

theorem served_cases (exact : ∀ ttl ∈ x.operation.ttl?, Time.IsExact ttl) :
    served .server now (some x) = served .memory now (some x) ∨
      ∃ key value ttl, x.operation = .put key value ttl ∧
        served .memory now (some x) = none ∧ served .server now (some x) = some value ∧
        x.now + ttl ≤ now ∧ now < x.now + Backing.server.lifetime ttl := by
  obtain ⟨t, op⟩ := x
  cases op with
  | put key value ttl =>
    have hle : ttl ≤ Backing.server.lifetime ttl := memoryLifetime_le (exact ttl rfl)
    by_cases hmemory : now < t + ttl
    · have hserver : now < t + Backing.server.lifetime ttl :=
        Int.lt_of_lt_of_le hmemory (Int.add_le_add_left hle t)
      left
      exact (if_pos hserver).trans (if_pos hmemory).symm
    · have hnone : served .memory now (some ⟨t, .put key value ttl⟩) = none := if_neg hmemory
      by_cases hserver : now < t + Backing.server.lifetime ttl
      · right
        exact ⟨key, value, ttl, rfl, hnone, if_pos hserver, Int.not_lt.mp hmemory, hserver⟩
      · left
        rw [hnone]
        exact if_neg hserver
  | get key => exact .inl rfl
  | pop key => exact .inl rfl
  | delete key => exact .inl rfl
  | ping => exact .inl rfl

theorem served_of_wholeSeconds (exact : ∀ ttl ∈ x.operation.ttl?, Time.IsExact ttl)
    (whole : ∀ ttl ∈ x.operation.ttl?, 0 < ttl ∧ Time.second ∣ ttl) :
    served .server now (some x) = served .memory now (some x) := by
  obtain ⟨t, op⟩ := x
  cases op with
  | put key value ttl =>
    obtain ⟨positive, hdvd⟩ := whole ttl rfl
    rw [served, served, lifetime_of_wholeSeconds (exact ttl rfl) positive hdvd]
  | get key => rfl
  | pop key => rfl
  | delete key => rfl
  | ping => rfl

/-- Let the calls come with a clock that never moves backwards, with deadlines in memory that are in
the calendar and with times to keep of at most `2 ^ 34` seconds either way, and let no command of
the server fail. Then a call is answered alike from memory and from the server, except that the
server may still answer the value of the latest write where memory answers none, from its deadline
until the whole seconds are over. What memory serves the server serves, and with positive times in
whole seconds there is no difference at all. -/
theorem stores_agree (calls : List Timed) (forward : IsForward calls)
    (kept : ∀ x ∈ calls, x.isKept .memory)
    (exact : ∀ x ∈ calls, ∀ ttl ∈ x.operation.ttl?, Time.IsExact ttl) :
    ∀ before x later, calls = before ++ x :: later →
      (reply .memory .none before x = reply .server .none before x ∨
        ∃ key value t ttl, x.operation.reads key ∧
          reply .memory .none before x = .ok (.value none) ∧
          reply .server .none before x = .ok (.value (some value)) ∧
          latest? key before = some ⟨t, .put key value ttl⟩ ∧ t + ttl ≤ x.now ∧
          x.now < t + max 1 (-(-ttl / Time.second)) * Time.second) ∧
      (∀ value, reply .memory .none before x = .ok (.value (some value)) →
        reply .server .none before x = .ok (.value (some value))) ∧
      ((∀ y ∈ calls, ∀ ttl ∈ y.operation.ttl?, 0 < ttl ∧ Time.second ∣ ttl) →
        reply .memory .none before x = reply .server .none before x) := by
  rintro before x later rfl
  have hstart : before ++ [x] <+: before ++ x :: later := ⟨later, List.append_assoc ..⟩
  have hmemory : Works .memory .none := .inl rfl
  have hserver : Works .server .none := .inr rfl
  by_cases hreads : ∃ key, x.operation.reads key = true
  · obtain ⟨key, hreads⟩ := hreads
    have forward := forward.sublist hstart.sublist
    rw [reply_of_reads hmemory (fun y hy => kept y (hstart.subset hy)) forward hreads,
      reply_of_reads hserver (fun y _ => y.isKept_server) forward hreads]
    cases hlatest : latest? key before with
    | none => exact ⟨.inl rfl, fun value h => h, fun _ => rfl⟩
    | some y =>
      obtain ⟨hmem, hwrites⟩ := mem_of_latest? hlatest
      have hmem := List.mem_append_left (x :: later) hmem
      have hexact := exact y hmem
      refine ⟨?_, ?_, ?_⟩
      · rcases served_cases hexact with hsame | ⟨k, value, ttl, hput, hnone, hsome, hover, hleft⟩
        · rw [hsame]
          exact .inl rfl
        · obtain ⟨t, op⟩ := y
          obtain rfl : op = .put k value ttl := hput
          obtain rfl : key = k := eq_of_beq hwrites
          rw [serverLifetime_eq (hexact ttl rfl)] at hleft
          rw [hnone, hsome]
          exact .inr ⟨key, value, t, ttl, hreads, rfl, rfl, hlatest, hover, hleft⟩
      · intro value h
        rcases served_cases hexact with hsame | ⟨k, v, ttl, -, hnone, -⟩
        · rw [hsame]
          exact h
        · rw [hnone] at h
          cases h
      · intro whole
        rw [served_of_wholeSeconds hexact (whole y hmem)]
  · have hall : ∀ key, x.operation.reads key = false := by
      intro key
      exact Bool.eq_false_iff.mpr fun h => hreads ⟨key, h⟩
    have hkept := kept x (hstart.subset (List.mem_append_right _ (.head _)))
    have hsame : reply .memory .none before x = reply .server .none before x :=
      reply_of_not_reads hmemory hserver hkept x.isKept_server hall
    exact ⟨.inl hsame, fun value h => hsame ▸ h, fun _ => hsame⟩

def fractionOfSecond : List Timed :=
  [⟨0, .put "a" "first" 1500000⟩, ⟨1600000, .get "a"⟩, ⟨2000000, .get "a"⟩]

theorem fractionOfSecond_rounded :
    reply .memory .none (fractionOfSecond.take 1) ⟨1600000, .get "a"⟩ = .ok (.value none) ∧
      reply .server .none (fractionOfSecond.take 1) ⟨1600000, .get "a"⟩ =
        .ok (.value (some "first")) ∧
      reply .memory .none (fractionOfSecond.take 2) ⟨2000000, .get "a"⟩ =
        reply .server .none (fractionOfSecond.take 2) ⟨2000000, .get "a"⟩ := by
  have agree := stores_agree fractionOfSecond (by decide) (by decide) (by decide)
    (fractionOfSecond.take 2) _ _ rfl
  refine ⟨rfl, rfl, agree.1.resolve_right ?_⟩
  rintro ⟨key, value, t, ttl, hreads, -, -, hlatest, -, hleft⟩
  obtain rfl := eq_of_beq hreads
  cases hlatest.symm.trans (show latest? "a" _ = some ⟨0, .put "a" "first" 1500000⟩ by decide)
  exact absurd hleft (by decide)

end Accounts.Session
