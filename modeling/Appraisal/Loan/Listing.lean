import Appraisal.Loan.Derivation
import Appraisal.Valuation.Pricing

/-!
# Listing loans

The loans of a ledger are those of the accounts that the rules name. The rules are taken in their
order; each asks the ledger for its postings, which may be too many, keeps those of matching accounts
and gives one loan for each account that no earlier rule has named. An account whose loan cannot be
derived is left out and recorded.
-/

namespace Appraisal.Loan

open Journaled

/-- Gathers postings by account, in the order in which the accounts first occur. -/
def byAccount (ps : List Posting) : List (Text × List Posting) :=
  (ps.map Posting.account).eraseDups.map (fun a => (a, ps.filter (fun p => p.account = a)))

/-- Faults that leave an account out of a list. A value of a kind that an operation does not know is
not one of them, nor is a refusal of the system. -/
def isTolerated : Fault → Bool
  | .mismatch => false
  | .unsupported => false
  | .refusal r => r.family != .system
  | _ => true

def valueOf (rules : List Rule) (now : Moment) (p : Posting) : Journaled Fault Decimal := do
  let priced ← Pricing.marketValue rules p now
  return priced.1

structure ListingTerms where
  rules : List Rule
  now : Moment
  currency : Text
  window : Int

/-- The loan of one account, unless it cannot be derived. -/
def attempt (t : ListingTerms) (account : Text) (ps : List Posting) :
    Journaled Fault (Option Loan) :=
  bound [(.account, some (.text account))] (do
    match ← outcome (δ := Fault) (derive? account ps t.now (valueOf t.rules t.now) t.currency t.window) with
    | .ok loan => return loan
    | .error e =>
        if isTolerated e then
          note Journal.errorLevel "services.loans" "loan_derivation_failed"
            [("posting_count", .whole ps.length), ("error", .text e.message)] (some e.report)
          return none
        else throw e)

structure Found where
  seen : List Text
  loans : List Loan

def addAccounts (t : ListingTerms) : Found → List (Text × List Posting) → Journaled Fault Found
  | found, [] => return found
  | found, (account, ps) :: rest =>
      if found.seen.contains account then addAccounts t found rest
      else do
        let loan ← attempt t account ps
        addAccounts t ⟨account :: found.seen, found.loans ++ loan.toList⟩ rest

section

variable {ε : Type} (fault : Fault → ε) (source : Text → Journaled ε (List Posting))

def addRules (t : ListingTerms) : Found → List Rule → Journaled ε Found
  | found, [] => return found
  | found, r :: rest =>
      if r.account = "" then addRules t found rest
      else do
        let candidates ← source r.account
        let accounts := byAccount (AccountPattern.filter r.account candidates)
        let found ← mapFault fault (addAccounts t found accounts)
        addRules t found rest

def list (t : ListingTerms) : Journaled ε (List Loan) := do
  let found ← addRules fault source t ⟨[], []⟩ t.rules
  note Journal.infoLevel "services.loans" "loans_listed"
    [("loan_count", .whole found.loans.length), ("rule_count", .whole t.rules.length),
     ("now", .moment t.now)]
  return listed found.loans

end

end Appraisal.Loan
