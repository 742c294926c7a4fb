import Nullsink.Lib.Latch
import Nullsink.Lib.Transition
import Nullsink.Payments.Rate

/-! The fetcher that `makeRate` returns, over every interleaving of its callers with the answers of
the sources: one refresh at a time, and a cache that only a refresh fills.
-/

namespace Nullsink.Payments

open Ecma Ledger Latch Transition

/-- A refresh, with the answers of the sources it has asked and when its `finally` ran. -/
structure RateRefresh where
  answers : List (Except String Response)
  completedAt : Option ℤ

/-- A call of the fetcher: answered from the cache, or with the promise of a refresh. -/
inductive RateCall where
  | cached (now : ℤ) (usd : Number)
  | joined (refresh : ℕ)
  | received (refresh : ℕ) (usd : Number)
  | rejected (refresh : ℕ) (error : String)

/-- The refresh whose promise a call returned. -/
def RateCall.refresh? : RateCall → Option ℕ
  | .cached _ _ => none
  | .joined i => some i
  | .received i _ => some i
  | .rejected i _ => some i

/-- What the closures of a fetcher share, where the latch of the refreshes is `inflight`; the calls
made of it, and the last reading of the clock.
-/
structure RateFetcher where
  cached : Option (Number × ℤ)
  refreshes : Attempts RateRefresh
  calls : List RateCall
  clock : ℤ

/-- A caller arrives, the source that a refresh waits for answers or fails, a refresh comes to its
`finally`, and the promise of a call is settled.
-/
inductive RateAction where
  | call (now : ℤ)
  | answer (i : ℕ) (answer : Except String Response)
  | complete (i : ℕ) (now : ℤ)
  | deliver (c : ℕ)

/-- The reading of the clock in an action. -/
def RateAction.now? : RateAction → Option ℤ
  | .call now => some now
  | .complete _ now => some now
  | _ => none

/-- `Date.now() - cached.at < opts.cacheMs`. -/
def RateOptions.fresh (opts : RateOptions) (atMs now : ℤ) : Bool :=
  (Number.ofInt (now - atMs)).lt opts.cacheMs

namespace RateFetcher

variable (decimals : Decimals) (opts : RateOptions)

/-- The call `xmrUsd()`. -/
def xmrUsd (f : RateFetcher) (now : ℤ) : RateFetcher :=
  match f.cached.filter (fun entry => opts.fresh entry.2 now) with
  | some (usd, _) => { f with calls := f.calls ++ [.cached now usd], clock := now }
  | none =>
      match f.refreshes.latch with
      | some i => { f with calls := f.calls ++ [.joined i], clock := now }
      | none =>
          {
            f with
            refreshes := f.refreshes.start ⟨[], none⟩
            calls := f.calls ++ [.joined f.refreshes.made.length]
            clock := now
          }

/-- The answer of the source that a refresh waits for. -/
def answer (f : RateFetcher) (i : ℕ) (answer : Except String Response) : Option RateFetcher :=
  match f.refreshes.made[i]? with
  | some ⟨answers, none⟩ =>
      match opts.refresh decimals answers with
      | none => some { f with refreshes := f.refreshes.advance i ⟨answers ++ [answer], none⟩ }
      | some _ => none
  | _ => none

/-- A refresh is over: it fills the cache if it succeeded, and frees the slot. -/
def complete (f : RateFetcher) (i : ℕ) (now : ℤ) : Option RateFetcher :=
  match f.refreshes.made[i]? with
  | some ⟨answers, none⟩ =>
      match opts.refresh decimals answers with
      | none => none
      | some (.ok usd) =>
          some
            {
              f with
              cached := some (usd, now)
              refreshes := f.refreshes.giveUp i ⟨answers, some now⟩
              clock := now
            }
      | some (.error _) =>
          some { f with refreshes := f.refreshes.giveUp i ⟨answers, some now⟩, clock := now }
  | _ => none

/-- The promise of a refresh settles that of a call which returned it. -/
def deliver (f : RateFetcher) (c : ℕ) : Option RateFetcher :=
  match f.calls[c]? with
  | some (.joined i) =>
      match f.refreshes.made[i]? with
      | some ⟨answers, some _⟩ =>
          match opts.refresh decimals answers with
          | none => none
          | some (.ok usd) => some { f with calls := f.calls.set c (.received i usd) }
          | some (.error error) => some { f with calls := f.calls.set c (.rejected i error) }
      | _ => none
  | _ => none

def act (f : RateFetcher) : RateAction → Option RateFetcher
  | .call now => some (f.xmrUsd opts now)
  | .answer i answer => f.answer decimals opts i answer
  | .complete i now => f.complete decimals opts i now
  | .deliver c => f.deliver decimals opts c

end RateFetcher

/-- A fetcher from its making, under a clock that does not go back. -/
def rateFetcher (decimals : Decimals) (opts : RateOptions) : System RateFetcher RateAction where
  initial f := f.cached = none ∧ f.refreshes = .empty ∧ f.calls = []
  step f action next :=
    f.act decimals opts action = some next ∧ ∀ now, action.now? = some now → f.clock ≤ now

section Moves

variable {decimals : Decimals} {opts : RateOptions} {f next : RateFetcher}

/-- Nothing in the cache can be returned. -/
def RateFetcher.Stale (opts : RateOptions) (f : RateFetcher) (now : ℤ) : Prop :=
  ∀ usd atMs, f.cached = some (usd, atMs) → opts.fresh atMs now = false

/-- Everything an action can do. -/
inductive RateMove (decimals : Decimals) (opts : RateOptions) (f : RateFetcher)
    : RateAction → RateFetcher → Prop
  | hit {now usd atMs} (found : f.cached = some (usd, atMs)) (fresh : opts.fresh atMs now = true)
    : RateMove decimals opts f (.call now)
        { f with calls := f.calls ++ [.cached now usd], clock := now }
  | joined {now i} (stale : f.Stale opts now) (held : f.refreshes.latch = some i)
    : RateMove decimals opts f (.call now)
        { f with calls := f.calls ++ [.joined i], clock := now }
  | started {now} (stale : f.Stale opts now) (free : f.refreshes.latch = none)
    : RateMove decimals opts f (.call now)
        {
          f with
          refreshes := f.refreshes.start ⟨[], none⟩
          calls := f.calls ++ [.joined f.refreshes.made.length]
          clock := now
        }
  | answered {i answers answer} (found : f.refreshes.made[i]? = some ⟨answers, none⟩)
    : RateMove decimals opts f (.answer i answer)
        { f with refreshes := f.refreshes.advance i ⟨answers ++ [answer], none⟩ }
  | succeeded {i answers now usd} (found : f.refreshes.made[i]? = some ⟨answers, none⟩)
    (refreshed : opts.refresh decimals answers = some (.ok usd))
    : RateMove decimals opts f (.complete i now)
        {
          f with
          cached := some (usd, now)
          refreshes := f.refreshes.giveUp i ⟨answers, some now⟩
          clock := now
        }
  | failed {i answers now error} (found : f.refreshes.made[i]? = some ⟨answers, none⟩)
    (refreshed : opts.refresh decimals answers = some (.error error))
    : RateMove decimals opts f (.complete i now)
        { f with refreshes := f.refreshes.giveUp i ⟨answers, some now⟩, clock := now }
  | received {c i answers atMs usd} (waiting : f.calls[c]? = some (.joined i))
    (found : f.refreshes.made[i]? = some ⟨answers, some atMs⟩)
    (refreshed : opts.refresh decimals answers = some (.ok usd))
    : RateMove decimals opts f (.deliver c) { f with calls := f.calls.set c (.received i usd) }
  | rejected {c i answers atMs error} (waiting : f.calls[c]? = some (.joined i))
    (found : f.refreshes.made[i]? = some ⟨answers, some atMs⟩)
    (refreshed : opts.refresh decimals answers = some (.error error))
    : RateMove decimals opts f (.deliver c) { f with calls := f.calls.set c (.rejected i error) }

/-- Every action is a move. -/
theorem rateMove_of_act {action : RateAction} (step : f.act decimals opts action = some next)
    : RateMove decimals opts f action next := by
  cases action with
  | call now =>
      simp only [RateFetcher.act, RateFetcher.xmrUsd, Option.some.injEq] at step
      subst step
      split
      · rename_i usd atMs kept
        obtain ⟨found, fresh⟩ := Option.filter_eq_some_iff.mp kept
        exact .hit found fresh
      · rename_i passed
        have stale : f.Stale opts now := by
          intro usd atMs found
          rw [found] at passed
          simpa [Option.filter] using passed
        split
        · rename_i i held
          exact .joined stale held
        · rename_i free
          exact .started stale free
  | answer i answer =>
      simp only [RateFetcher.act, RateFetcher.answer] at step
      split at step
      · rename_i answers found
        split at step
        · cases step
          exact .answered found
        · cases step
      · cases step
  | complete i now =>
      simp only [RateFetcher.act, RateFetcher.complete] at step
      split at step
      · rename_i answers found
        split at step
        · cases step
        · rename_i usd refreshed
          cases step
          exact .succeeded found refreshed
        · rename_i error refreshed
          cases step
          exact .failed found refreshed
      · cases step
  | deliver c =>
      simp only [RateFetcher.act, RateFetcher.deliver] at step
      split at step
      · rename_i i waiting
        split at step
        · rename_i answers atMs found
          split at step
          · cases step
          · rename_i usd refreshed
            cases step
            exact .received waiting found refreshed
          · rename_i error refreshed
            cases step
            exact .rejected waiting found refreshed
        · cases step
      · cases step

-----------------------------------------------------------------------------------------
-- Refreshes and the cache
-----------------------------------------------------------------------------------------

def RateRefresh.Running (refresh : RateRefresh) : Prop := refresh.completedAt = none

/-- A refresh that is over with a value. -/
structure RateRefresh.Succeeded (decimals : Decimals) (opts : RateOptions) (refresh : RateRefresh)
    (usd : Number) (atMs : ℤ)
    : Prop where
  completedAt : refresh.completedAt = some atMs
  refreshed : opts.refresh decimals refresh.answers = some (.ok usd)

/-- A refresh that is over with an error. -/
structure RateRefresh.Failed (decimals : Decimals) (opts : RateOptions) (refresh : RateRefresh)
    (error : String)
    : Prop where
  completed : refresh.completedAt.isSome = true
  refreshed : opts.refresh decimals refresh.answers = some (.error error)

/-- What is so of a call, by the refreshes made so far. -/
def RateCall.Sound (decimals : Decimals) (opts : RateOptions) (made : List RateRefresh)
    : RateCall → Prop
  | .cached now usd =>
      ∃ (i : ℕ) (refresh : RateRefresh) (atMs : ℤ),
        made[i]? = some refresh ∧ refresh.Succeeded decimals opts usd atMs
        ∧ atMs ≤ now ∧ opts.fresh atMs now = true
  | .joined i => ∃ refresh, made[i]? = some refresh
  | .received i usd =>
      ∃ (refresh : RateRefresh) (atMs : ℤ),
        made[i]? = some refresh ∧ refresh.Succeeded decimals opts usd atMs
  | .rejected i error =>
      ∃ refresh : RateRefresh, made[i]? = some refresh ∧ refresh.Failed decimals opts error

/-- Refreshes stay made, and those that are over stay as they are. -/
structure RefreshesKept (made later : List RateRefresh) : Prop where
  stay
    : ∀ (i : ℕ) (refresh : RateRefresh), made[i]? = some refresh → ∃ after, later[i]? = some after
  ended
    : ∀ (i : ℕ) (refresh : RateRefresh), made[i]? = some refresh → ¬refresh.Running
        → later[i]? = some refresh

theorem RefreshesKept.start (refreshes : Attempts RateRefresh) (refresh : RateRefresh)
    : RefreshesKept refreshes.made (refreshes.start refresh).made :=
  ⟨fun _ before found => ⟨before, Attempts.made_start_of_made found⟩,
    fun _ _ found _ => Attempts.made_start_of_made found⟩

/-- A refresh that runs is the only one that goes on. -/
theorem RefreshesKept.set {made : List RateRefresh} {i : ℕ} {refresh : RateRefresh}
    (found : made[i]? = some refresh) (running : refresh.Running) (after : RateRefresh)
    : RefreshesKept made (made.set i after) := by
  have within : i < made.length := (List.getElem?_eq_some_iff.mp found).1
  constructor
  · intro j before foundJ
    by_cases same : i = j
    · exact ⟨after, by simp [← same, within]⟩
    · exact ⟨before, by simpa [List.getElem?_set_ne same] using foundJ⟩
  · intro j before foundJ ended
    have apart : i ≠ j := by
      rintro rfl
      cases found.symm.trans foundJ
      exact ended running
    simpa [List.getElem?_set_ne apart] using foundJ

theorem RateRefresh.Succeeded.ended {refresh : RateRefresh} {usd : Number} {atMs : ℤ}
    (succeeded : refresh.Succeeded decimals opts usd atMs)
    : ¬refresh.Running := by
  rw [Running, succeeded.completedAt]
  simp

theorem RateRefresh.Failed.ended {refresh : RateRefresh} {error : String}
    (failed : refresh.Failed decimals opts error)
    : ¬refresh.Running := by
  intro running
  have completed := failed.completed
  rw [running] at completed
  cases completed

theorem RateCall.Sound.keep {made later : List RateRefresh} {call : RateCall}
    (sound : call.Sound decimals opts made) (kept : RefreshesKept made later)
    : call.Sound decimals opts later := by
  cases call with
  | cached now usd =>
      obtain ⟨i, refresh, atMs, found, succeeded, rest⟩ := sound
      exact ⟨i, refresh, atMs, kept.ended i refresh found succeeded.ended, succeeded, rest⟩
  | joined i =>
      obtain ⟨refresh, found⟩ := sound
      exact kept.stay i refresh found
  | received i usd =>
      obtain ⟨refresh, atMs, found, succeeded⟩ := sound
      exact ⟨refresh, atMs, kept.ended i refresh found succeeded.ended, succeeded⟩
  | rejected i error =>
      obtain ⟨refresh, found, failed⟩ := sound
      exact ⟨refresh, kept.ended i refresh found failed.ended, failed⟩

/-- What cannot be returned stays so as time goes on. -/
theorem RateOptions.fresh_of_le {atMs now later : ℤ} (inTime : opts.fresh atMs later = true)
    (le : now ≤ later)
    : opts.fresh atMs now = true := by
  unfold RateOptions.fresh at inTime ⊢
  cases limit : opts.cacheMs with
  | finite q =>
      simp only [limit, Number.ofInt, Number.lt, decide_eq_true_eq] at inTime ⊢
      have cast : ((now - atMs : ℤ) : ℚ) ≤ (later - atMs : ℤ) := Int.cast_le.mpr (by omega)
      exact cast.trans_lt inTime
  | infinity negative => simpa [limit, Number.ofInt, Number.lt] using inTime
  | nan => simp [limit, Number.ofInt, Number.lt] at inTime

/-- One refresh at a time, which is the last; and every call is as its refresh. -/
structure RefreshInvariant (decimals : Decimals) (opts : RateOptions) (f : RateFetcher) : Prop where
  single : f.refreshes.Single RateRefresh.Running
  last : ∀ i, f.refreshes.latch = some i → i + 1 = f.refreshes.made.length
  times
    : ∀ (i : ℕ) (refresh : RateRefresh) (atMs : ℤ), f.refreshes.made[i]? = some refresh
        → refresh.completedAt = some atMs → atMs ≤ f.clock
  calls : ∀ call ∈ f.calls, call.Sound decimals opts f.refreshes.made

/-- The cache holds the value of a refresh that is over, and cannot be returned unless that is
the last one.
-/
structure RateInvariant (decimals : Decimals) (opts : RateOptions) (f : RateFetcher) : Prop
    extends RefreshInvariant decimals opts f where
  cached
    : ∀ usd atMs, f.cached = some (usd, atMs)
        → ∃ (i : ℕ) (refresh : RateRefresh), f.refreshes.made[i]? = some refresh
            ∧ refresh.Succeeded decimals opts usd atMs
  stale
    : ∀ refresh : RateRefresh, f.refreshes.made.getLast? = some refresh
        → (∀ usd atMs, ¬refresh.Succeeded decimals opts usd atMs)
        → ∀ now, f.clock ≤ now → f.Stale opts now

namespace RefreshInvariant

variable {now : ℤ} {i : ℕ} {answers : List (Except String Response)}

/-- The refresh that runs is the last one made. -/
theorem last_of_running (inv : RefreshInvariant decimals opts f)
    (found : f.refreshes.made[i]? = some ⟨answers, none⟩)
    : i + 1 = f.refreshes.made.length ∧ f.refreshes.made.getLast? = some ⟨answers, none⟩ := by
  have length := inv.last i (inv.single.latched i _ found rfl)
  refine ⟨length, ?_⟩
  rw [List.getLast?_eq_getElem?, ← length]
  exact found

/-- A caller is recorded. -/
theorem called (inv : RefreshInvariant decimals opts f) (le : f.clock ≤ now) {call : RateCall}
    (sound : call.Sound decimals opts f.refreshes.made)
    : RefreshInvariant decimals opts { f with calls := f.calls ++ [call], clock := now } where
  single := inv.single
  last := inv.last
  times := fun i refresh atMs found completed => (inv.times i refresh atMs found completed).trans le
  calls := by
    intro other member
    rcases List.mem_append.mp member with earlier | own
    · exact inv.calls other earlier
    · exact List.mem_singleton.mp own ▸ sound

/-- A refresh starts while the slot is free. -/
theorem started (inv : RefreshInvariant decimals opts f) (free : f.refreshes.latch = none)
    : RefreshInvariant decimals opts { f with refreshes := f.refreshes.start ⟨[], none⟩ } where
  single := inv.single.start free rfl
  last := by
    intro i held
    cases held
    simp [Attempts.start]
  times := by
    intro i refresh atMs found completed
    rcases Attempts.made_start found with rfl | earlier
    · cases completed
    · exact inv.times i refresh atMs earlier completed
  calls := fun call member => (inv.calls call member).keep (.start _ _)

/-- A refresh goes on to the next source. -/
theorem answered (inv : RefreshInvariant decimals opts f)
    (found : f.refreshes.made[i]? = some ⟨answers, none⟩) (answer : Except String Response)
    : RefreshInvariant decimals opts
        { f with refreshes := f.refreshes.advance i ⟨answers ++ [answer], none⟩ } where
  single := inv.single.advance found rfl rfl
  last := by
    intro j held
    simpa [Attempts.advance] using inv.last j held
  times := by
    intro j refresh atMs foundJ completed
    rcases Attempts.made_advance foundJ with ⟨_, rfl⟩ | ⟨_, earlier⟩
    · cases completed
    · exact inv.times j refresh atMs earlier completed
  calls := fun call member => (inv.calls call member).keep (.set found rfl _)

/-- A refresh is over, whatever it leaves in the cache. -/
theorem completed (inv : RefreshInvariant decimals opts f) (le : f.clock ≤ now)
    (found : f.refreshes.made[i]? = some ⟨answers, none⟩) (cached : Option (Number × ℤ))
    : RefreshInvariant decimals opts
        {
          f with
          cached
          refreshes := f.refreshes.giveUp i ⟨answers, some now⟩
          clock := now
        } where
  single := inv.single.giveUp found rfl (by simp [RateRefresh.Running])
  last := by
    intro j held
    cases held
  times := by
    intro j refresh atMs foundJ completed
    have later : (f.refreshes.advance i ⟨answers, some now⟩).made[j]? = some refresh := foundJ
    rcases Attempts.made_advance later with ⟨_, rfl⟩ | ⟨_, earlier⟩
    · cases completed
      exact le_rfl
    · exact (inv.times j refresh atMs earlier completed).trans le
  calls := fun call member => (inv.calls call member).keep (.set found rfl _)

/-- The promise of a call is settled. -/
theorem delivered (inv : RefreshInvariant decimals opts f) (c : ℕ) {call : RateCall}
    (sound : call.Sound decimals opts f.refreshes.made)
    : RefreshInvariant decimals opts { f with calls := f.calls.set c call } where
  single := inv.single
  last := inv.last
  times := inv.times
  calls := by
    intro other member
    rcases List.mem_or_eq_of_mem_set member with earlier | rfl
    · exact inv.calls other earlier
    · exact sound

end RefreshInvariant

namespace RateInvariant

/-- What the cache holds stays the value of a refresh that is over. -/
theorem cached_kept (inv : RateInvariant decimals opts f) {later : List RateRefresh}
    (kept : RefreshesKept f.refreshes.made later)
    : ∀ usd atMs, f.cached = some (usd, atMs)
        → ∃ (i : ℕ) (refresh : RateRefresh), later[i]? = some refresh
            ∧ refresh.Succeeded decimals opts usd atMs := by
  intro usd atMs held
  obtain ⟨i, refresh, found, succeeded⟩ := inv.cached usd atMs held
  exact ⟨i, refresh, kept.ended i refresh found succeeded.ended, succeeded⟩

/-- While a refresh runs nothing in the cache can be returned. -/
theorem stale_of_running (inv : RateInvariant decimals opts f) {i : ℕ}
    {answers : List (Except String Response)}
    (found : f.refreshes.made[i]? = some ⟨answers, none⟩) {now : ℤ} (le : f.clock ≤ now)
    : f.Stale opts now := by
  refine inv.stale _ (inv.last_of_running found).2 ?_ now le
  intro usd atMs succeeded
  cases succeeded.completedAt

/-- Every move keeps the invariant. -/
theorem move (inv : RateInvariant decimals opts f) {action : RateAction}
    (moved : RateMove decimals opts f action next)
    (clock : ∀ now, action.now? = some now → f.clock ≤ now)
    : RateInvariant decimals opts next := by
  cases moved with
  | @hit now usd atMs held fresh =>
      have le := clock now rfl
      obtain ⟨i, refresh, found, succeeded⟩ := inv.cached usd atMs held
      have passed := (inv.times i refresh atMs found succeeded.completedAt).trans le
      have sound : RateCall.Sound decimals opts f.refreshes.made (.cached now usd) :=
        ⟨i, refresh, atMs, found, succeeded, passed, fresh⟩
      refine { inv.called le sound with cached := inv.cached, stale := ?_ }
      intro refresh last other later after
      exact inv.stale refresh last other later (le.trans after)
  | @joined now i stale held =>
      have le := clock now rfl
      obtain ⟨refresh, found, _⟩ := inv.single.lives i held
      have sound : RateCall.Sound decimals opts f.refreshes.made (.joined i) := ⟨refresh, found⟩
      refine { inv.called le sound with cached := inv.cached, stale := ?_ }
      intro refresh last other later after
      exact inv.stale refresh last other later (le.trans after)
  | @started now stale free =>
      have le := clock now rfl
      have sound
          : RateCall.Sound decimals opts (f.refreshes.start ⟨[], none⟩).made
              (.joined f.refreshes.made.length) :=
        ⟨⟨[], none⟩, by simp [Attempts.start]⟩
      refine {
        (inv.started free).called le sound with
        cached := inv.cached_kept (.start _ _)
        stale := ?_
      }
      intro refresh last other later after usd atMs held
      by_contra fresh
      have earlier := RateOptions.fresh_of_le (by simpa using fresh) after
      rw [stale usd atMs held] at earlier
      cases earlier
  | @answered i answers answer found =>
      refine {
        inv.toRefreshInvariant.answered found answer with
        cached := inv.cached_kept (.set found rfl _)
        stale := ?_
      }
      intro refresh last other later after
      exact inv.stale_of_running found after
  | @succeeded i answers now usd found refreshed =>
      have le := clock now rfl
      have within : i < f.refreshes.made.length := (List.getElem?_eq_some_iff.mp found).1
      refine {
        inv.completed le found (some (usd, now)) with
        cached := ?_
        stale := ?_
      }
      · intro usd' atMs held
        cases held
        exact ⟨i, ⟨answers, some now⟩, by simp [Attempts.giveUp, within], rfl, refreshed⟩
      · intro refresh last other
        have own : refresh = ⟨answers, some now⟩ := by
          rw [List.getLast?_eq_getElem?] at last
          simpa [Attempts.giveUp, ← (inv.last_of_running found).1] using last.symm
        exact (other usd now (own ▸ ⟨rfl, refreshed⟩)).elim
  | @failed i answers now error found refreshed =>
      have le := clock now rfl
      refine {
        inv.completed le found f.cached with
        cached := inv.cached_kept (.set found rfl _)
        stale := ?_
      }
      intro refresh last other later after
      exact inv.stale_of_running found (le.trans after)
  | @received c i answers atMs usd waiting found refreshed =>
      have sound : RateCall.Sound decimals opts f.refreshes.made (.received i usd) :=
        ⟨_, atMs, found, rfl, refreshed⟩
      exact { inv.delivered c sound with cached := inv.cached, stale := inv.stale }
  | @rejected c i answers atMs error waiting found refreshed =>
      have sound : RateCall.Sound decimals opts f.refreshes.made (.rejected i error) :=
        ⟨_, found, rfl, refreshed⟩
      exact { inv.delivered c sound with cached := inv.cached, stale := inv.stale }

end RateInvariant

/-- The invariant holds after every run. -/
theorem rate_invariant {start : RateFetcher} {actions : List RateAction}
    (initial : (rateFetcher decimals opts).initial start)
    (run : (rateFetcher decimals opts).Run start actions f)
    : RateInvariant decimals opts f := by
  refine run.rule (fun _ f => RateInvariant decimals opts f) ?_ ?_
  · obtain ⟨uncached, unmade, uncalled⟩ := initial
    exact {
      single := by
        rw [unmade]
        exact .empty
      last := by simp [unmade, Attempts.empty]
      times := by simp [unmade, Attempts.empty]
      calls := by simp [uncalled]
      cached := by simp [uncached]
      stale := by simp [unmade, Attempts.empty]
    }
  · intro _ _ _ _ _ inv step
    exact inv.move (rateMove_of_act step.1) step.2

-----------------------------------------------------------------------------------------
-- What the fetcher guarantees
-----------------------------------------------------------------------------------------

/-- What holds of a fetcher at any time. -/
structure RateSafety (decimals : Decimals) (opts : RateOptions) (f : RateFetcher) : Prop where
  singleFlight
    : ∀ (i j : ℕ) (first second : RateRefresh), f.refreshes.made[i]? = some first
        → f.refreshes.made[j]? = some second → first.Running → second.Running → i = j
  received
    : ∀ i usd, .received i usd ∈ f.calls
        → ∃ refresh : RateRefresh, f.refreshes.made[i]? = some refresh
            ∧ opts.FirstInBand decimals refresh.answers usd
  cached
    : ∀ now usd, .cached now usd ∈ f.calls
        → ∃ (i : ℕ) (refresh : RateRefresh) (atMs : ℤ), f.refreshes.made[i]? = some refresh
            ∧ refresh.completedAt = some atMs
            ∧ opts.FirstInBand decimals refresh.answers usd
            ∧ atMs ≤ now ∧ (Number.ofInt (now - atMs)).lt opts.cacheMs = true
  rejected
    : ∀ i error, .rejected i error ∈ f.calls
        → ∃ refresh : RateRefresh, f.refreshes.made[i]? = some refresh
            ∧ refresh.Failed decimals opts error
            ∧ (opts.sources decimals).length ≤ refresh.answers.length
            ∧ ∀ asked ∈ (opts.sources decimals).zip refresh.answers,
                opts.OutOfBand decimals asked
  failed
    : ∀ (i : ℕ) (refresh : RateRefresh) error, f.refreshes.made[i]? = some refresh
        → refresh.Failed decimals opts error
        → ∀ (c : ℕ) (call : RateCall), f.calls[c]? = some call → call.refresh? = some i
        → call = .rejected i error
          ∨ call = .joined i
            ∧ (rateFetcher decimals opts).step f (.deliver c)
                { f with calls := f.calls.set c (.rejected i error) }
  completed
    : ∀ (i : ℕ) now next (refresh : RateRefresh) error,
        (rateFetcher decimals opts).step f (.complete i now) next
        → f.refreshes.made[i]? = some refresh
        → opts.refresh decimals refresh.answers = some (.error error)
        → next.cached = f.cached ∧ next.refreshes.latch = none ∧ next.calls = f.calls
  retried
    : ∀ (refresh : RateRefresh) error, f.refreshes.made.getLast? = some refresh
        → refresh.Failed decimals opts error
        → ∀ now, f.clock ≤ now
        → (rateFetcher decimals opts).step f (.call now)
            {
              f with
              refreshes := f.refreshes.start ⟨[], none⟩
              calls := f.calls ++ [.joined f.refreshes.made.length]
              clock := now
            }

/-- Where the last refresh is over, the slot is free. -/
theorem RateInvariant.free_of_last_ended (inv : RateInvariant decimals opts f)
    {refresh : RateRefresh} (last : f.refreshes.made.getLast? = some refresh)
    (ended : ¬refresh.Running)
    : f.refreshes.latch = none := by
  cases held : f.refreshes.latch with
  | none => rfl
  | some i =>
      obtain ⟨running, found, alive⟩ := inv.single.lives i held
      rw [List.getLast?_eq_getElem?, ← inv.last i held] at last
      cases found.symm.trans last
      exact (ended alive).elim

/-- The call after a failed refresh starts a new one. -/
theorem RateInvariant.retried (inv : RateInvariant decimals opts f) {refresh : RateRefresh}
    {error : String} (last : f.refreshes.made.getLast? = some refresh)
    (failed : refresh.Failed decimals opts error) {now : ℤ} (le : f.clock ≤ now)
    : f.act decimals opts (.call now)
      = some
        {
          f with
          refreshes := f.refreshes.start ⟨[], none⟩
          calls := f.calls ++ [.joined f.refreshes.made.length]
          clock := now
        } := by
  have free := inv.free_of_last_ended last failed.ended
  have unsuccessful (usd : Number) (atMs : ℤ) : ¬refresh.Succeeded decimals opts usd atMs := by
    intro succeeded
    have refreshed := succeeded.refreshed
    rw [failed.refreshed] at refreshed
    cases refreshed
  have stale := inv.stale refresh last unsuccessful now le
  have passed : f.cached.filter (fun entry => opts.fresh entry.2 now) = none := by
    cases held : f.cached with
    | none => rfl
    | some entry => simp [Option.filter, stale entry.1 entry.2 held]
  simp only [RateFetcher.act, RateFetcher.xmrUsd, passed, free]

/-- The promise of a failed refresh rejects a call that waits for it. -/
theorem RateFetcher.deliver_failed {i c : ℕ} {refresh : RateRefresh} {error : String}
    (waiting : f.calls[c]? = some (.joined i)) (found : f.refreshes.made[i]? = some refresh)
    (failed : refresh.Failed decimals opts error)
    : f.act decimals opts (.deliver c)
      = some { f with calls := f.calls.set c (.rejected i error) } := by
  obtain ⟨answers, completedAt⟩ := refresh
  obtain ⟨atMs, completed⟩ := Option.isSome_iff_exists.mp failed.completed
  cases completed
  simp only [act, deliver, waiting, found, failed.refreshed]

end Moves

/-- The fetcher under any interleaving of its callers, the answers of its sources and the ends of
its refreshes, with a clock that does not go back. One refresh runs at a time. A value that a
caller receives is in band, and that of the first source in band of its refresh; one from the cache
is returned only within `cacheMs` of the end of that refresh. A failed refresh rejects the callers
that joined it and no others, leaves the cache, and frees the slot for the next caller.
-/
theorem rate_fetcher_safe (decimals : Decimals) (opts : RateOptions) {start f : RateFetcher}
    {actions : List RateAction} (initial : (rateFetcher decimals opts).initial start)
    (run : (rateFetcher decimals opts).Run start actions f)
    : RateSafety decimals opts f := by
  have inv := rate_invariant initial run
  exact {
    singleFlight := by
      intro i j first second foundFirst foundSecond running running'
      exact inv.single.unique foundFirst foundSecond running running'
    received := by
      intro i usd member
      obtain ⟨refresh, atMs, found, succeeded⟩ := inv.calls _ member
      exact ⟨refresh, found, RateOptions.refreshFrom_ok succeeded.refreshed⟩
    cached := by
      intro now usd member
      obtain ⟨i, refresh, atMs, found, succeeded, le, fresh⟩ := inv.calls _ member
      exact ⟨i, refresh, atMs, found, succeeded.completedAt,
        RateOptions.refreshFrom_ok succeeded.refreshed, le, fresh⟩
    rejected := by
      intro i error member
      obtain ⟨refresh, found, failed⟩ := inv.calls _ member
      exact ⟨refresh, found, failed, RateOptions.refreshFrom_error failed.refreshed⟩
    failed := by
      intro i refresh error found failed c call called joined
      have sound := inv.calls call (List.mem_of_getElem? called)
      cases call with
      | cached now usd => cases joined
      | joined j =>
          cases joined
          exact Or.inr ⟨rfl, RateFetcher.deliver_failed called found failed, nofun⟩
      | received j usd =>
          cases joined
          obtain ⟨other, atMs, foundOther, succeeded⟩ := sound
          cases found.symm.trans foundOther
          have refreshed := succeeded.refreshed
          rw [failed.refreshed] at refreshed
          cases refreshed
      | rejected j thrown =>
          cases joined
          obtain ⟨other, foundOther, failedOther⟩ := sound
          cases found.symm.trans foundOther
          have refreshed := failedOther.refreshed
          rw [failed.refreshed] at refreshed
          cases refreshed
          exact Or.inl rfl
    completed := by
      intro i now next refresh error step found refreshed
      cases rateMove_of_act step.1 with
      | succeeded running ended =>
          cases found.symm.trans running
          rw [refreshed] at ended
          cases ended
      | failed running ended => exact ⟨rfl, rfl, rfl⟩
    retried := by
      intro refresh error last failed now le
      refine ⟨inv.retried last failed le, ?_⟩
      intro reading same
      cases same
      exact le
  }

section Example

def exampleRateOptions : RateOptions :=
  ⟨"https://rate.test", none, [], .ofInt 60000, .ofInt 1, .ofInt 100000⟩

/-- The numbers of an answer are not read before the answer arrives. -/
def unreadDecimals : Decimals := ⟨fun _ => "NaN", fun _ => .nan⟩

/-- Two callers share a refresh whose only source times out; a third one calls after its end. -/
def exampleRateActions : List RateAction :=
  [.call 0, .call 3, .answer 0 (.error "timeout"), .complete 0 5, .call 6, .deliver 0, .deliver 1]

/-- An action at a time that is not before the last one. -/
def RateFetcher.actInTime (f : RateFetcher) (action : RateAction) : Option RateFetcher :=
  if action.now?.all (fun now => f.clock ≤ now) then
    f.act unreadDecimals exampleRateOptions action
  else none

/-- The two callers are rejected, and the third one has started a new refresh. -/
theorem rate_fetcher_safe_retries
    : ∃ f : RateFetcher,
        RateSafety unreadDecimals exampleRateOptions f
        ∧ f.calls
          = [.rejected 0 "all rate sources failed: timeout",
            .rejected 0 "all rate sources failed: timeout", .joined 1]
        ∧ f.refreshes.current = some ⟨[], none⟩ := by
  have ran : exampleRateActions.foldlM RateFetcher.actInTime ⟨none, .empty, [], 0⟩ = some _ := rfl
  have run : (rateFetcher unreadDecimals exampleRateOptions).Run _ _ _ :=
    System.run_of_foldlM ran (by
      intro f action next _ acted
      simp only [RateFetcher.actInTime, Option.ite_none_right_eq_some] at acted
      obtain ⟨inTime, step⟩ := acted
      refine ⟨step, ?_⟩
      intro now reading
      simpa [reading] using inTime)
  exact ⟨_, rate_fetcher_safe unreadDecimals exampleRateOptions ⟨rfl, rfl, rfl⟩ run, rfl, rfl⟩

end Example

end Nullsink.Payments
