import Accounts.Session.Store
import Mathlib.Data.List.Induction

/-! # What the session store serves

A key is served from the latest operation that wrote it. In memory an entry that is over goes only
when its own key is read, so a store can hold more than it serves. As long as the clock does not
move backwards nobody can tell.
-/
namespace Accounts

def Outcome.map {σ α β : Type} (f : α → β) (o : Outcome σ α) : Outcome σ β :=
  ⟨o.state, o.answer.map f, o.notes⟩

namespace Session

inductive Reply where
  | done
  | value (found : Option String)
  | alive (answers : Bool)
  deriving DecidableEq, Repr

/-- An operation and the instant at which it is carried out. -/
structure Timed where
  now : Instant
  operation : Operation
  deriving DecidableEq, Repr

def Operation.writes (key : LooseText) : Operation → Bool
  | .put k .. | .pop k | .delete k => key == k
  | .get _ | .ping => false

def Operation.reads (key : LooseText) : Operation → Bool
  | .get k | .pop k => key == k
  | _ => false

def Operation.perform (backing : Backing) (outages : Outages) (now : Instant) (es : Entries) :
    Operation → Outcome Entries Reply
  | .put key value ttl => (Session.put backing outages now key value ttl es).map fun _ => .done
  | .get key => (Session.get backing outages now key es).map .value
  | .pop key => (Session.pop backing outages now key es).map .value
  | .delete key => (Session.delete backing outages key es).map fun _ => .done
  | .ping => .ok es (.alive (Session.ping backing outages))

/-- The entry that is put gets a deadline. A server always gives one. -/
def Timed.isKept (backing : Backing) (x : Timed) : Bool :=
  match x.operation with
  | .put _ _ ttl => (backing.deadline? x.now ttl).isSome
  | _ => true

theorem Timed.isKept_server (x : Timed) : x.isKept .server = true := by
  obtain ⟨now, op⟩ := x
  cases op <;> rfl

abbrev IsForward (calls : List Timed) : Prop :=
  calls.Pairwise (·.now ≤ ·.now)

/-- The latest of the operations that wrote a key. -/
def latest? (key : LooseText) (calls : List Timed) : Option Timed :=
  (calls.filter (·.operation.writes key)).getLast?

section Runs

variable (backing : Backing) (outages : Outages)

def next (es : Entries) (x : Timed) : Entries :=
  (x.operation.perform backing outages x.now es).state

def after (calls : List Timed) : Entries :=
  calls.foldl (next backing outages) []

def reply (before : List Timed) (x : Timed) : Except Failure Reply :=
  (x.operation.perform backing outages x.now (after backing outages before)).answer

/-- What there is to be read at an instant, by the latest write. -/
def served (now : Instant) : Option Timed → Option String
  | some ⟨t, .put _ value ttl⟩ => if now < t + backing.lifetime ttl then some value else none
  | _ => none

end Runs

variable {backing : Backing} {outages : Outages} {now t : Instant} {key other : LooseText}
  {value : String} {ttl : Duration} {es : Entries} {x y : Timed} {calls before : List Timed}

def Works (backing : Backing) (outages : Outages) : Prop :=
  backing = .memory ∨ outages = .none

theorem Works.isOut (h : Works backing outages) :
    backing.isOut outages.set = false ∧ backing.isOut outages.get = false ∧
      backing.isOut outages.getdel = false ∧ backing.isOut outages.delete = false := by
  rcases h with rfl | rfl
  · exact ⟨rfl, rfl, rfl, rfl⟩
  · cases backing <;> exact ⟨rfl, rfl, rfl, rfl⟩

theorem perform_put (h : Works backing outages) (key : LooseText) (value : String)
    (kept : (backing.deadline? now ttl).isSome) (es : Entries) :
    (Operation.put key value ttl).perform backing outages now es =
      .ok (es.insert key ⟨value, now + backing.lifetime ttl⟩) .done := by
  obtain ⟨deadline, hdeadline⟩ := Option.isSome_iff_exists.mp kept
  rw [Operation.perform, put, h.isOut.1, hdeadline,
    (Backing.deadline?_eq_some_iff.mp hdeadline).1]
  rfl

theorem perform_get (h : Works backing outages) (key : LooseText) (es : Entries) :
    (Operation.get key).perform backing outages now es =
      .ok (es.afterRead now key) (.value (es.live? now key)) := by
  rw [Operation.perform, get, h.isOut.2.1]
  rfl

theorem perform_pop (h : Works backing outages) (key : LooseText) (es : Entries) :
    (Operation.pop key).perform backing outages now es =
      .ok (es.erase key) (.value (es.live? now key)) := by
  rw [Operation.perform, pop, h.isOut.2.2.1]
  rfl

theorem perform_delete (h : Works backing outages) (key : LooseText) (es : Entries) :
    (Operation.delete key).perform backing outages now es = .ok (es.erase key) .done := by
  rw [Operation.perform, delete, h.isOut.2.2.2]
  rfl

theorem ping_of_works (h : Works backing outages) : Session.ping backing outages = true := by
  rcases h with rfl | rfl
  · rfl
  · cases backing <;> rfl

theorem live?_insert (key other : LooseText) (entry : Entry) (es : Entries) :
    (es.insert key entry).live? t other =
      if other = key then if t < entry.deadline then some entry.value else none
      else es.live? t other := by
  rw [Entries.live?, Entries.find?_insert]
  by_cases h : other = key
  · rw [if_pos h, if_pos h]
    by_cases ht : t < entry.deadline
    · rw [if_pos ht]
      exact if_neg (Int.not_le.mpr ht)
    · rw [if_neg ht]
      exact if_pos (Int.not_lt.mp ht)
  · rw [if_neg h, if_neg h]
    rfl

theorem live?_erase (key other : LooseText) (es : Entries) :
    (es.erase key).live? t other = if other = key then none else es.live? t other := by
  rw [Entries.live?, Entries.find?_erase]
  by_cases h : other = key
  · rw [if_pos h, if_pos h]
  · rw [if_neg h, if_neg h]
    rfl

theorem live?_afterRead (h : now ≤ t) (key other : LooseText) (es : Entries) :
    (es.afterRead now key).live? t other = es.live? t other := by
  rw [Entries.afterRead]
  cases hk : es.find? key with
  | none => rfl
  | some entry =>
    dsimp only
    by_cases hover : entry.deadline ≤ now
    · rw [if_pos hover, live?_erase]
      by_cases hkey : other = key
      · rw [if_pos hkey, hkey, Entries.live?, hk]
        exact (if_pos (Int.le_trans hover h)).symm
      · rw [if_neg hkey]
    · rw [if_neg hover]

theorem after_concat (calls : List Timed) (x : Timed) :
    after backing outages (calls ++ [x]) = next backing outages (after backing outages calls) x :=
  List.foldl_append

theorem latest?_concat (key : LooseText) (calls : List Timed) (x : Timed) :
    latest? key (calls ++ [x]) = if x.operation.writes key then some x else latest? key calls := by
  rw [latest?, List.filter_append]
  by_cases h : x.operation.writes key = true
  · rw [List.filter_cons, if_pos h, if_pos h, List.filter_nil, List.getLast?_concat]
  · rw [List.filter_cons, if_neg h, if_neg h, List.filter_nil, List.append_nil, latest?]

/-- What one operation leaves to be read later is its own value under the key it writes, and what
there was before under any other key. -/
theorem live?_next (works : Works backing outages) (kept : x.isKept backing) (h : x.now ≤ t)
    (key : LooseText) (es : Entries) :
    (next backing outages es x).live? t key =
      if x.operation.writes key then served backing t (some x) else es.live? t key := by
  obtain ⟨now, op⟩ := x
  rw [next]
  cases op with
  | put k value ttl =>
    rw [perform_put works k value kept]
    simp only [Outcome.ok, live?_insert, Operation.writes, beq_iff_eq, served]
  | get k =>
    rw [perform_get works]
    exact live?_afterRead h k key es
  | pop k =>
    rw [perform_pop works]
    simp only [Outcome.ok, live?_erase, Operation.writes, beq_iff_eq, served]
  | delete k =>
    rw [perform_delete works]
    simp only [Outcome.ok, live?_erase, Operation.writes, beq_iff_eq, served]
  | ping => rfl

/-- After a run, whatever is read at its end or later is what the latest write left. -/
theorem live?_after (works : Works backing outages) (kept : ∀ x ∈ calls, x.isKept backing)
    (h : ∀ x ∈ calls, x.now ≤ t) (key : LooseText) :
    (after backing outages calls).live? t key = served backing t (latest? key calls) := by
  induction calls using List.reverseRecOn with
  | nil => rfl
  | append_singleton calls x ih =>
    have hx : x ∈ calls ++ [x] := List.mem_append_right _ (.head _)
    have hcalls : ∀ y ∈ calls, y ∈ calls ++ [x] := fun y hy => List.mem_append_left _ hy
    have ih := ih (fun y hy => kept y (hcalls y hy)) (fun y hy => h y (hcalls y hy))
    rw [after_concat, live?_next works (kept x hx) (h x hx), latest?_concat, ih]
    split <;> rfl

theorem reply_of_reads (works : Works backing outages)
    (kept : ∀ y ∈ before ++ [x], y.isKept backing) (forward : IsForward (before ++ [x]))
    (h : x.operation.reads key) :
    reply backing outages before x =
      .ok (.value (served backing x.now (latest? key before))) := by
  have hlate : ∀ y ∈ before, y.now ≤ x.now := by
    intro y hy
    exact (List.pairwise_append.mp forward).2.2 y hy x (.head _)
  have hlive := live?_after works (fun y hy => kept y (List.mem_append_left _ hy)) hlate key
  obtain ⟨now, op⟩ := x
  rw [reply]
  cases op with
  | get k =>
    obtain rfl := eq_of_beq h
    rw [perform_get works, ← hlive]
    rfl
  | pop k =>
    obtain rfl := eq_of_beq h
    rw [perform_pop works, ← hlive]
    rfl
  | put k value ttl => cases h
  | delete k => cases h
  | ping => cases h

theorem reply_of_not_reads {backing' : Backing} {outages' : Outages} {before' : List Timed}
    (works : Works backing outages) (works' : Works backing' outages') (kept : x.isKept backing)
    (kept' : x.isKept backing') (h : ∀ key, x.operation.reads key = false) :
    reply backing outages before x = reply backing' outages' before' x := by
  obtain ⟨now, op⟩ := x
  rw [reply, reply]
  cases op with
  | put k value ttl =>
    rw [perform_put works k value kept, perform_put works' k value kept']
    rfl
  | get k => cases (h k).symm.trans (beq_self_eq_true k)
  | pop k => cases (h k).symm.trans (beq_self_eq_true k)
  | delete k =>
    rw [perform_delete works, perform_delete works']
    rfl
  | ping =>
    rw [Operation.perform, Operation.perform, ping_of_works works, ping_of_works works']
    rfl

theorem latest?_append (key : LooseText) (earlier since : List Timed) :
    latest? key (earlier ++ since) = (latest? key since).or (latest? key earlier) := by
  rw [latest?, List.filter_append, List.getLast?_append, latest?, latest?]

theorem latest?_cons_skip (h : y.operation.writes key = false) (since : List Timed) :
    latest? key (y :: since) = latest? key since := by
  rw [latest?, List.filter_cons, h]
  rfl

theorem latest?_cons_of_writes (h : y.operation.writes key = true)
    (quiet : ∀ z ∈ calls, z.operation.writes key = false) :
    latest? key (y :: calls) = some y := by
  have hcalls : calls.filter (·.operation.writes key) = [] := by
    apply List.filter_eq_nil_iff.mpr
    intro z hz
    rw [quiet z hz]
    exact Bool.false_ne_true
  rw [latest?, List.filter_cons, if_pos h, hcalls]
  rfl

theorem mem_of_latest? (h : latest? key calls = some y) :
    y ∈ calls ∧ y.operation.writes key = true :=
  List.mem_filter.mp (List.mem_of_getLast? h)

theorem put_of_served {latest : Option Timed} (h : served backing now latest = some value) :
    ∃ t k ttl, latest = some ⟨t, .put k value ttl⟩ ∧ now < t + backing.lifetime ttl := by
  cases latest with
  | none => cases h
  | some y =>
    obtain ⟨t, op⟩ := y
    cases op with
    | put k v ttl =>
      rw [served] at h
      split at h
      · next hnow =>
        cases h
        exact ⟨t, k, ttl, rfl, hnow⟩
      · cases h
    | get k => cases h
    | pop k => cases h
    | delete k => cases h
    | ping => cases h

theorem served_latest?_iff :
    served backing now (latest? key calls) = some value ↔
      ∃ t ttl, latest? key calls = some ⟨t, .put key value ttl⟩ ∧
        now < t + backing.lifetime ttl := by
  constructor
  · intro h
    obtain ⟨t, k, ttl, hlatest, hnow⟩ := put_of_served h
    obtain rfl : key = k := eq_of_beq (mem_of_latest? hlatest).2
    exact ⟨t, ttl, hlatest, hnow⟩
  · rintro ⟨t, ttl, hlatest, hnow⟩
    rw [hlatest, served, if_pos hnow]

theorem not_served_of_over {earlier since : List Timed} (h : y.operation = .put key value ttl)
    (quiet : ∀ z ∈ since, z.operation.writes key = false)
    (lapsed : y.now + backing.lifetime ttl ≤ now) :
    served backing now (latest? key (earlier ++ y :: since)) = none := by
  obtain ⟨t, op⟩ := y
  obtain rfl : op = .put key value ttl := h
  have hlatest := latest?_cons_of_writes (y := ⟨t, .put key value ttl⟩) (beq_self_eq_true key) quiet
  rw [latest?_append, hlatest, Option.some_or, served, if_neg (Int.not_lt.mpr lapsed)]

theorem not_served_of_popped {earlier since : List Timed} (h : y.operation = .pop key)
    (unput : ∀ z ∈ since, ∀ value ttl, z.operation ≠ .put key value ttl) :
    served backing now (latest? key (earlier ++ y :: since)) = none := by
  cases hserved : served backing now (latest? key (earlier ++ y :: since)) with
  | none => rfl
  | some value =>
    obtain ⟨t, ttl, hlatest, -⟩ := served_latest?_iff.mp hserved
    rw [latest?_append] at hlatest
    cases hsince : latest? key (y :: since) with
    | none =>
      have hmem : y ∈ (y :: since).filter (·.operation.writes key) := by
        apply List.mem_filter.mpr
        rw [h]
        exact ⟨.head _, beq_self_eq_true key⟩
      rw [List.getLast?_eq_none_iff.mp hsince] at hmem
      cases hmem
    | some z =>
      rw [hsince, Option.some_or] at hlatest
      obtain rfl := Option.some.inj hlatest
      rcases List.mem_cons.mp (mem_of_latest? hsince).1 with rfl | hz
      · cases h
      · exact absurd rfl (unput _ hz value ttl)

/-- In memory, if the calendar has every deadline and the clock never moves backwards, a key is read
or taken with a value exactly when the latest of its puts, pops and deletes put that value, and its
deadline is still ahead. So a call that does not write the key can be left out of the history, an
entry is not served at its deadline or after it, and a value that was taken comes back only with
another put. -/
theorem memory_serves_latest_write (outages : Outages) (calls : List Timed)
    (kept : ∀ x ∈ calls, x.isKept .memory) (forward : IsForward calls) :
    ∀ before x later key, calls = before ++ x :: later → x.operation.reads key →
      ∃ found, reply .memory outages before x = .ok (.value found) ∧
        (∀ value, found = some value ↔
          ∃ t ttl, latest? key before = some ⟨t, .put key value ttl⟩ ∧ x.now < t + ttl) ∧
        ∀ earlier y since, before = earlier ++ y :: since →
          (y.operation.writes key = false →
            reply .memory outages (earlier ++ since) x = .ok (.value found)) ∧
          (∀ value ttl, y.operation = .put key value ttl →
            (∀ z ∈ since, z.operation.writes key = false) → y.now + ttl ≤ x.now → found = none) ∧
          (y.operation = .pop key →
            (∀ z ∈ since, ∀ value ttl, z.operation ≠ .put key value ttl) → found = none) := by
  rintro before x later key rfl hreads
  have works : Works .memory outages := .inl rfl
  have hstart : before ++ [x] <+: before ++ x :: later := ⟨later, List.append_assoc ..⟩
  have kept := fun y hy => kept y (hstart.subset hy)
  have forward := forward.sublist hstart.sublist
  refine ⟨_, reply_of_reads works kept forward hreads, fun value => served_latest?_iff, ?_⟩
  rintro earlier y since rfl
  refine ⟨?_, ?_, ?_⟩
  · intro hquiet
    have hsub : (earlier ++ since ++ [x]).Sublist (earlier ++ y :: since ++ [x]) := by simp
    rw [reply_of_reads works (fun z hz => kept z (hsub.subset hz)) (forward.sublist hsub) hreads,
      latest?_append, latest?_append, latest?_cons_skip hquiet]
  · intro value ttl hput hquiet hover
    exact not_served_of_over hput hquiet hover
  · intro hpop unput
    exact not_served_of_popped hpop unput

def twoEntries : List Timed :=
  [⟨0, .put "a" "first" 5⟩, ⟨1, .put "b" "second" 0⟩, ⟨3, .get "b"⟩, ⟨4, .get "a"⟩, ⟨5, .pop "a"⟩]

theorem twoEntries_served :
    reply .memory .none (twoEntries.take 3) ⟨4, .get "a"⟩ = .ok (.value (some "first")) ∧
      reply .memory .none (twoEntries.take 4) ⟨5, .pop "a"⟩ = .ok (.value none) := by
  have serves := memory_serves_latest_write .none twoEntries (by decide) (by decide)
  obtain ⟨early, hearly, hvalue, -⟩ := serves (twoEntries.take 3) _ _ "a" rfl (by decide)
  obtain ⟨late, hlate, -, hrest⟩ := serves (twoEntries.take 4) _ _ "a" rfl (by decide)
  have hover := (hrest [] _ _ rfl).2.1 "first" 5 rfl (by decide) (by decide)
  rw [hearly, hlate, (hvalue "first").mpr ⟨0, 5, by decide, by decide⟩, hover]
  exact ⟨rfl, rfl⟩

end Session

end Accounts
