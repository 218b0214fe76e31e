import Omniphi.Basic
import Omniphi.Lib.Ledger

/-! What the modules of the chain share: the accounts of the bank and decimals of 18 places. -/

namespace Omniphi

inductive Account
  | user (address : String)
  | module (name : String)
  deriving DecidableEq

abbrev Bank := Ledger Account

/-- A `LegacyDec`, as the number of its 18th places. -/
abbrev LegacyDec := Int

namespace LegacyDec

def precisionReuse : Int := 10 ^ 18

-- Bankers' rounding: a half goes to the even neighbour.
def chopPrecisionAndRoundNat (d : Nat) : Nat :=
  let quo := d / 10 ^ 18
  let rem := d % 10 ^ 18
  if rem < 5 * 10 ^ 17 then quo
  else if rem > 5 * 10 ^ 17 then quo + 1
  else if quo % 2 = 0 then quo else quo + 1

def chopPrecisionAndRound (d : Int) : Int :=
  if d < 0 then -(chopPrecisionAndRoundNat d.natAbs : Int) else chopPrecisionAndRoundNat d.natAbs

def ofInt (n : Int) : LegacyDec := n * precisionReuse

def mul (a b : LegacyDec) : LegacyDec := chopPrecisionAndRound (a * b)

def quo (a b : LegacyDec) : LegacyDec :=
  chopPrecisionAndRound ((a * precisionReuse * precisionReuse).tdiv b)

def mulInt (a : LegacyDec) (n : Int) : LegacyDec := a * n

def truncateInt (a : LegacyDec) : Int := a.tdiv precisionReuse

end LegacyDec

end Omniphi
