import TransactionService.Foundation.LeasedStore
import TransactionService.World.IdentityFrame

namespace TransactionService.Retention

open LeasedStore Sessions SharedStore

/-! # How long an exchange is kept

Each write of a record asks the store to keep it until a second after its expiry. The
writes of requests, sweeps and worker runs interleave, are built from stale copies and
may land late. -/

/-- `keyv` keeps an entry for the time to live that it is given, and an entry with none
for ever. A negative one is over at once. -/
structure KeepsTtl (deadline : Timestamp → Int → Option Timestamp) : Prop where
  never : ∀ landed, deadline landed 0 = none
  later : ∀ landed ttl, ttl ≠ 0 → deadline landed ttl = some (landed + ttl)

def keptUntil (exchange : Exchange) : Timestamp :=
  exchange.expires + 1000

section

variable (runtime : Runtime) (config : Config)
  (deadline : Timestamp → Int → Option Timestamp)

def storeTerms : Terms Exchange where
  ttl := storeTtl
  deadline

abbrev TimedLabel := Timed String Task Creation

def timedStep : State String Exchange String Task → TimedLabel →
    Option (State String Exchange String Task) :=
  LeasedStore.step (exchangeProtocol runtime config) (storeTerms deadline)

/-- What `keyv.get` answers. -/
def found (state : State String Exchange String Task) (exchangeId : String) :
    Option Exchange :=
  LeasedStore.find (storeTerms deadline) state exchangeId

def made (creation : Creation) : Exchange :=
  createExchange config creation.answers creation.data

def IsKept (state : State String Exchange String Task) (exchange : Exchange) : Prop :=
  ∃ record, found deadline state exchange.exchangeId = some record ∧
    identityOf record = identityOf exchange

end

section

variable {runtime : Runtime} {config : Config}
  {deadline : Timestamp → Int → Option Timestamp}

private theorem storeTerms_measures (keeps : KeepsTtl deadline) :
    (storeTerms deadline).Measures keptUntil where
  ttl measured exchange := by
    have spare : ∀ expires time : Int, expires - time + 1000 = expires + 1000 - time := by
      omega
    exact spare exchange.expires measured
  never := keeps.never
  later := keeps.later

private theorem keptUntil_fixed (left right : Exchange)
    (same : identityOf left = identityOf right) :
    keptUntil left = keptUntil right :=
  congrArg (fun identity : Identity => identity.expires + 1000) same

/-- Whoever writes an exchange, and from whichever copy, it is found until a second
after its expiry. After that it is found only for as long as the last write took to
land, or for ever if that write asked for no time at all; no other write keeps an
exchange longer, or brings it back. -/
theorem kept_until_expiry (keeps : KeepsTtl deadline) {began : Timestamp}
    {timed : List TimedLabel} {state : State String Exchange String Task}
    (runs : Machine.run (timedStep runtime config deadline) (LeasedStore.start began) timed =
      some state) :
    (∀ exchangeId record, found deadline state exchangeId = some record →
      ∃ creation, CreatedIn timed creation ∧ (made config creation).exchangeId = exchangeId ∧
        identityOf record = identityOf (made config creation)) ∧
    ∀ creation, CreatedIn timed creation →
      (state.now ≤ keptUntil (made config creation) →
        IsKept deadline state (made config creation)) ∧
      ∃ landing, state.landings (made config creation).exchangeId = some landing ∧
        landing.measured ≤ landing.landed ∧ landing.landed ≤ state.now ∧
        (IsKept deadline state (made config creation) ↔
          landing.measured = keptUntil (made config creation) ∨
          state.now ≤ keptUntil (made config creation) +
            (landing.landed - landing.measured)) := by
  have framed := @IdentityFrame.exchange_framed runtime config
  constructor
  · intro exchangeId record isFound
    exact found_created framed runs isFound
  · intro creation created
    rcases found_iff framed keptUntil_fixed (storeTerms_measures keeps) runs created with
      ⟨landing, isLanding, measured, landed, exactly⟩
    have kept : IsKept deadline state (made config creation) ↔
        landing.measured = keptUntil (made config creation) ∨
        state.now ≤ keptUntil (made config creation) +
          (landing.landed - landing.measured) := by
      apply exactly.trans
      unfold RunOut
      rw [Decidable.not_and_iff_not_or_not, Decidable.not_not, Int.not_lt]
      rfl
    refine ⟨?_, landing, isLanding, measured, landed, kept⟩
    intro inTime
    have noLess : ∀ now limit measured landed : Int, now ≤ limit → measured ≤ landed →
        now ≤ limit + (landed - measured) := by
      omega
    exact kept.mpr (.inr (noLess _ _ _ _ inTime measured))

end

/-! ## A write that comes late -/

def plainDeadline (landed : Timestamp) (ttl : Int) : Option Timestamp :=
  if ttl = 0 then none else some (landed + ttl)

theorem plainDeadline_keeps : KeepsTtl plainDeadline where
  never _ := rfl
  later _ _ left := if_neg left

/-- A nonce request loads the exchange and writes it after this time; then there is
a wait. -/
def lateNonce (afterwards : Nat) : List TimedLabel := [
  .act 0 (.create IdentityFrame.offeredCredential),
  .act 0 (.load 0 "uuid" IdentityFrame.nonceRequest),
  .wait afterwards, .act 0 (.put 0), .wait 5000]

theorem lateNonce_created (afterwards : Nat) :
    CreatedIn (lateNonce afterwards) IdentityFrame.offeredCredential :=
  ⟨0, List.mem_cons_self⟩

/-- A write after the deadline is lost; one at the very last moment keeps the exchange
for good. -/
theorem late_writes : ∃ lost kept,
    Machine.run (timedStep Runtime.plain {} plainDeadline) (LeasedStore.start 0)
      (lateNonce 601001) = some lost ∧
    Machine.run (timedStep Runtime.plain {} plainDeadline) (LeasedStore.start 0)
      (lateNonce 601000) = some kept ∧
    found plainDeadline lost "uuid" = none ∧
    IsKept plainDeadline kept (made {} IdentityFrame.offeredCredential) := by
  have ran : ∃ lost kept,
      Machine.run (timedStep Runtime.plain {} plainDeadline) (LeasedStore.start 0)
        (lateNonce 601001) = some lost ∧
      Machine.run (timedStep Runtime.plain {} plainDeadline) (LeasedStore.start 0)
        (lateNonce 601000) = some kept ∧
      lost.now = 606001 ∧ lost.landings "uuid" = some ⟨601001, 601001⟩ ∧
      kept.landings "uuid" = some ⟨601000, 601000⟩ :=
    ⟨_, _, rfl, rfl, rfl, rfl, rfl⟩
  rcases ran with ⟨lost, kept, loses, keeps, now, late, last⟩
  refine ⟨lost, kept, loses, keeps, ?_, ?_⟩
  · rcases kept_until_expiry plainDeadline_keeps loses with ⟨created, exactly⟩
    rcases (exactly _ (lateNonce_created 601001)).2 with
      ⟨landing, isLanding, -, -, isKept⟩
    cases late.symm.trans isLanding
    cases isFound : found plainDeadline lost "uuid" with
    | none => rfl
    | some record =>
        rcases created "uuid" record isFound with ⟨creation, ⟨lag, member⟩, -, same⟩
        have only : lag = 0 ∧ creation = IdentityFrame.offeredCredential := by
          simpa [lateNonce] using member
        rw [only.2] at same
        rcases isKept.mp ⟨record, isFound, same⟩ with early | inTime
        · exact absurd early (by decide)
        · rw [now] at inTime
          exact absurd inTime (by decide)
  · rcases (kept_until_expiry plainDeadline_keeps keeps).2 _ (lateNonce_created 601000) with
      ⟨-, landing, isLanding, -, -, isKept⟩
    cases last.symm.trans isLanding
    exact isKept.mpr (.inl rfl)

end TransactionService.Retention
