import Mathlib.Data.List.Induction

/-! A cache of one value that expires. A call that finds no live value asks for
one, which may fail. Nothing here mentions a particular program. -/

namespace GpuTelemetry

variable {ε α : Type}

/-- A call at time `now`. If it asks for a value, it has it at time `done`, to keep for `lifetime`. -/
structure Lookup (ε α : Type) where
  now : Int
  done : Int
  outcome : Except ε α
  lifetime : Int

def Lookup.expiry (call : Lookup ε α) : Int := call.done + call.lifetime

/-- The calls come one after the other. -/
def InTurn (calls : List (Lookup ε α)) : Prop :=
  (∀ call ∈ calls, call.now ≤ call.done) ∧ calls.Pairwise fun earlier later => earlier.done ≤ later.now

theorem InTurn.early {calls before between after : List (Lookup ε α)} {source call c : Lookup ε α}
    (inTurn : InTurn calls) (split : calls = before ++ source :: between ++ call :: after) (member : c ∈ between) :
    c.now ≤ call.now := by
  have ordered := inTurn.1 c (by simp [split, member])
  have turn := inTurn.2
  rw [split, List.pairwise_append] at turn
  have later := turn.2.2 c (by simp [member]) call (by simp)
  omega

structure ExpiringCache (α : Type) where
  data : Option α
  expiresAt : Int

namespace ExpiringCache

/-- Whether a call at this time has to ask. -/
def asks (cache : ExpiringCache α) (now : Int) : Bool := ¬(now < cache.expiresAt ∧ cache.data.isSome)

def answer (cache : ExpiringCache α) (call : Lookup ε α) : Except ε α :=
  match cache.data with
  | some value => if call.now < cache.expiresAt then .ok value else call.outcome
  | none => call.outcome

def next (cache : ExpiringCache α) (call : Lookup ε α) : ExpiringCache α :=
  if cache.asks call.now then
    match call.outcome with
    | .ok value => ⟨some value, call.expiry⟩
    | .error _ => cache
  else cache

/-- The cache after the calls. -/
def after (cache : ExpiringCache α) (calls : List (Lookup ε α)) : ExpiringCache α := calls.foldl next cache

variable {cache : ExpiringCache α} {calls before between : List (Lookup ε α)} {call source : Lookup ε α} {value : α}

theorem after_append (cache : ExpiringCache α) (calls : List (Lookup ε α)) (call : Lookup ε α) :
    cache.after (calls ++ [call]) = (cache.after calls).next call := by
  simp [after]

theorem answer_live (call : Lookup ε α) (held : cache.data = some value) (live : call.now < cache.expiresAt) :
    cache.answer call = .ok value := by
  rw [answer, held]
  exact if_pos live

theorem answer_asked (call : Lookup ε α) (asked : cache.asks call.now) : cache.answer call = call.outcome := by
  cases data : cache.data with
  | none => rw [answer, data]
  | some value =>
    have expired : ¬call.now < cache.expiresAt := by simpa [asks, data] using asked
    rw [answer, data]
    exact if_neg expired

theorem asks_live (held : cache.data = some value) (live : call.now < cache.expiresAt) :
    cache.asks call.now = false := by
  simp [asks, held, live]

theorem next_live (call : Lookup ε α) (held : cache.data = some value) (live : call.now < cache.expiresAt) :
    cache.next call = cache := by
  simp [next, asks_live held live]

theorem next_failed (call : Lookup ε α) {e : ε} (failed : call.outcome = .error e) : cache.next call = cache := by
  simp [next, failed]

theorem next_asked (call : Lookup ε α) (asked : cache.asks call.now) (outcome : call.outcome = .ok value) :
    cache.next call = ⟨some value, call.expiry⟩ := by
  simp [next, asked, outcome]

/-- What the cache holds is what the last call that asked with success got. -/
theorem held_source (empty : cache.data = none) (held : (cache.after calls).data = some value) :
    ∃ before source between, calls = before ++ source :: between ∧ (cache.after before).asks source.now ∧
      source.outcome = .ok value ∧ (cache.after calls).expiresAt = source.expiry := by
  induction calls using List.reverseRecOn with
  | nil => simp [after, empty] at held
  | append_singleton calls call ih =>
    by_cases asked : (cache.after calls).asks call.now
    · cases outcome : call.outcome with
      | ok new =>
        rw [after_append, next_asked call asked outcome] at held ⊢
        cases Option.some.inj held
        exact ⟨calls, call, [], rfl, asked, outcome, rfl⟩
      | error e =>
        rw [after_append, next_failed call outcome] at held ⊢
        obtain ⟨before, source, between, rfl, rest⟩ := ih held
        exact ⟨before, source, between ++ [call], by simp, rest⟩
    · have still : (cache.after calls).next call = cache.after calls := by simp [next, asked]
      rw [after_append, still] at held ⊢
      obtain ⟨before, source, between, rfl, rest⟩ := ih held
      exact ⟨before, source, between ++ [call], by simp, rest⟩

/-- Until it expires a value stays, whatever the calls in between would get. -/
theorem held_until (asked : (cache.after before).asks source.now) (outcome : source.outcome = .ok value)
    (early : ∀ call ∈ between, call.now < source.expiry) :
    cache.after (before ++ source :: between) = ⟨some value, source.expiry⟩ := by
  induction between using List.reverseRecOn with
  | nil => rw [after_append, next_asked _ asked outcome]
  | append_singleton between call ih =>
    have held := ih fun c member => early c (List.mem_append_left _ member)
    rw [← List.cons_append, ← List.append_assoc, after_append, held]
    exact next_live call rfl (early call (by simp))

/-- What is to hold of a run of calls: nothing is returned that has expired,
nothing that has not is lost, and a success is not asked for again before then. -/
structure Sound (cache : ExpiringCache α) (calls : List (Lookup ε α)) : Prop where
  fresh : ∀ before call after value, calls = before ++ call :: after → (cache.after before).answer call = .ok value →
    call.outcome = .ok value ∧ (cache.after before).asks call.now ∨
      ∃ earlier source between, before = earlier ++ source :: between ∧ (cache.after earlier).asks source.now ∧
        source.outcome = .ok value ∧ call.now < source.expiry
  kept : ∀ before source between call after value, calls = before ++ source :: between ++ call :: after →
    (cache.after before).asks source.now → source.outcome = .ok value → call.now < source.expiry →
      (cache.after (before ++ source :: between)).answer call = .ok value
  spaced : ∀ before source between call after value, calls = before ++ source :: between ++ call :: after →
    (cache.after before).asks source.now → source.outcome = .ok value →
      (cache.after (before ++ source :: between)).asks call.now → source.expiry ≤ call.now

theorem sound (empty : cache.data = none) (inTurn : InTurn calls) : cache.Sound calls where
  fresh before call after value _ result := by
    by_cases asked : (cache.after before).asks call.now
    · exact .inl ⟨answer_asked call asked ▸ result, asked⟩
    · have live : call.now < (cache.after before).expiresAt ∧ (cache.after before).data ≠ none := by
        simpa [asks] using asked
      obtain ⟨held, data⟩ := Option.ne_none_iff_exists'.mp live.2
      rw [answer_live call data live.1] at result
      cases Except.ok.inj result
      obtain ⟨earlier, source, between, split, sourceAsked, outcome, expiry⟩ := held_source empty data
      exact .inr ⟨earlier, source, between, split, sourceAsked, outcome, expiry ▸ live.1⟩
  kept before source between call after value split asked outcome live := by
    rw [held_until asked outcome fun c member => Int.lt_of_le_of_lt (inTurn.early split member) live]
    exact answer_live _ rfl live
  spaced before source between call after value split asked outcome again := by
    by_contra live
    rw [Int.not_le] at live
    rw [held_until asked outcome fun c member => Int.lt_of_le_of_lt (inTurn.early split member) live,
      asks_live rfl live] at again
    cases again

end ExpiringCache

end GpuTelemetry
