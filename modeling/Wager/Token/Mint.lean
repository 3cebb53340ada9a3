import Wager.Address
import Wager.Crypto.Ed25519

/-!
# Tokens and their accounts

Which token a client follows, and where the ledger keeps an owner's holdings of it.

The account of an owner for a token has an address that nobody holds a key for: it is the hash of
owner, token and programs with a counter, for the first counter from 255 down that gives no point of
the signature curve. So it can be computed from the others and need not be looked up.

## Main definitions

* `Address.derived`: The address that programs derive from seeds.
* `Address.associatedAccount`: The account of an owner for a token.
* `Mint`: A token.
-/

namespace Wager

namespace Address

/-- The hash of seeds, a counter and a program. -/
def derivationHash (seeds : List UInt8) (counter : Nat) (program : Address) : List UInt8 :=
  Sha2.sha256 <| seeds ++ UInt8.ofNat counter :: program.bytes.toList ++
    "ProgramDerivedAddress".toUTF8.data.toList

/-- The first hash that is no point of the curve, for counters from the given one down to one. -/
def derivedFrom (seeds : List UInt8) (program : Address) : Nat → Option Address
  | 0 => none
  | counter + 1 =>
    let hash := derivationHash seeds (counter + 1) program
    if Ed25519.isOnCurve hash then derivedFrom seeds program counter
    else (FixedBytes.ofList? 32 hash).map Address.mk

/-- The address that a program derives from seeds. -/
def derived (seeds : List UInt8) (program : Address) : Option Address :=
  derivedFrom seeds program 255

/-- The program that owns the accounts of tokens. -/
def tokenProgram : Address := known "TokenkegQfeZyiNwAJbNbGKPFXCWuBvf9Ss623VQ5DA"

/-- The program that creates associated accounts. -/
def associatedProgram : Address := known "ATokenGPvbdGVxr1b2hvZbsiqW5xWH25efTNsLJA8knL"

/-- The account in which the owner holds the token. -/
def associatedAccount (owner mint tokenProgram : Address) : Address :=
  let seeds := owner.bytes.toList ++ tokenProgram.bytes.toList ++ mint.bytes.toList
  (derived seeds associatedProgram).getD ⟨.zero 32⟩

end Address

/-- A token: its address, its decimals, and the program that keeps its accounts. -/
structure Mint where
  address : Address
  decimals : UInt8
  program : Address := .tokenProgram
  deriving DecidableEq

namespace Mint

/-- The address of the dollar token on the main ledger. -/
def dollarText : String := "EPjFWdd5AufqSSqeM2qN1xzybapC8G4wEGGkZwyTDt1v"

/-- The decimals of the dollar token. -/
def dollarDecimals : UInt8 := 6

/-- The token with the address that a text names. -/
def parse (s : String) (decimals : UInt8) : Result Mint :=
  (Address.parse s).map fun a => ⟨a, decimals, .tokenProgram⟩

/-- The dollar token. -/
def dollar : Result Mint := parse dollarText dollarDecimals

/-- The account in which the owner holds the token. -/
def accountOf (m : Mint) (owner : Address) : Address :=
  owner.associatedAccount m.address m.program

end Mint

end Wager
