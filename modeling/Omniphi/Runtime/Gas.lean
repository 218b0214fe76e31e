import Omniphi.Runtime.Errors

/-! Gas metering. A charge beyond the limit is recorded before it is refused, so that a failed plan
reports the gas that broke its limit. -/

namespace Omniphi.Runtime

structure GasCosts where
  baseTx : U64
  objectRead : U64
  debitBalance : U64
  creditBalance : U64
  swapPool : U64
  lockBalance : U64
  unlockBalance : U64
  updateVersion : U64
  contractStateWrite : U64
  constraintValidationBase : U64
  constraintValidationPerByte : U64
  bindContractBalance : U64
  createToken : U64
  emitEvent : U64
  ibcTransfer : U64
  scheduleExecution : U64
deriving DecidableEq

def GasCosts.defaultCosts : GasCosts :=
  { baseTx := 1000
    objectRead := 100
    debitBalance := 200
    creditBalance := 200
    swapPool := 800
    lockBalance := 300
    unlockBalance := 300
    updateVersion := 50
    contractStateWrite := 1000
    constraintValidationBase := 5000
    constraintValidationPerByte := 5
    bindContractBalance := 2000
    createToken := 10000
    emitEvent := 500
    ibcTransfer := 5000
    scheduleExecution := 3000 }

structure GasMeter where
  limit : U64
  consumed : U64
  costs : GasCosts
  batchComplexityMultiplierBps : U64
deriving DecidableEq

/-- Computations that charge gas and may fail. The meter survives a failure. -/
abbrev Metered := ExceptT RuntimeError (StateM GasMeter)

namespace GasMeter

def new (limit : U64) : GasMeter :=
  { limit, consumed := 0, costs := .defaultCosts, batchComplexityMultiplierBps := 10000 }

def consume (amount : U64) : Metered Unit := do
  let meter ← get
  let effective : U64 :=
    if meter.batchComplexityMultiplierBps = 10000 then amount
    else (MachineInt.saturatingMul (amount.setWidth 128)
      (meter.batchComplexityMultiplierBps.setWidth 128) / 10000).setWidth 64
  match MachineInt.checkedAdd meter.consumed effective with
  | none => throw (.constraintViolation "gas counter overflow")
  | some consumed =>
    set { meter with consumed }
    if meter.limit < consumed then
      throw (.constraintViolation ("out of gas: consumed " ++ toString consumed.toNat ++ " limit " ++
        toString meter.limit.toNat))

end GasMeter

end Omniphi.Runtime
