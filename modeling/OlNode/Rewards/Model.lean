import Mathlib.Algebra.Ring.Nat
import OlNode.Schema

/-!
# What the host rewards read

Earnings in a range of instants, calendar weeks, and the tags of the admin console. Strings are
lowered by the language's own `toLowerCase`, which is a parameter here.
-/
namespace OlNode.Rewards

/-- A qualifying credit of the point ledger: a gift outside direct chats, or video-call points. -/
structure Earning where
  userId : UserId
  amount : Nat
  createdAt : Time

/-- Sum of the qualifying earnings in `[start, stop)`. -/
def getQualifyingRewardEarningsForRange (rows : List Earning) (userId : UserId)
    (start stop : Time) : Nat :=
  ((rows.filter fun row =>
    row.userId = userId && start ≤ row.createdAt && row.createdAt < stop).map (·.amount)).sum

def msPerDay : Nat := 86400000

/-- A calendar week by its number. Weeks start on Sunday. -/
abbrev Week := Nat

def Week.start (week : Week) : Time := week * (7 * msPerDay)

/-! ### Tags -/

/-- The white space and line terminators that `trim` takes off. -/
def isWhiteSpace (c : Char) : Bool :=
  [0x09, 0x0a, 0x0b, 0x0c, 0x0d, 0x20, 0xa0, 0x1680, 0x2028, 0x2029, 0x202f, 0x205f, 0x3000,
    0xfeff].contains c.toNat || (0x2000 ≤ c.toNat && c.toNat ≤ 0x200a)

def trim (s : String) : String :=
  String.ofList ((s.toList.dropWhile isWhiteSpace).reverse.dropWhile isWhiteSpace).reverse

def ROYAL_HOST_TAG : String := "royal host"

section Tags

variable (toLowerCase : String → String)

def isRoyalHostTag (tag : String) : Bool := toLowerCase (trim tag) = ROYAL_HOST_TAG

def hasRoyalHostTag (adminTags : List String) : Bool := adminTags.any (isRoyalHostTag toLowerCase)

/-- One more tag, with the keys seen so far. -/
def addAdminTag : List String × List String → String → List String × List String
  | (seen, out), raw =>
    let t := trim raw
    if t = "" then (seen, out)
    else if toLowerCase t ∈ seen then (seen, out)
    else (toLowerCase t :: seen, out ++ [t])

/-- Trim, drop empties, dedupe case-insensitively while preserving first occurrence order. -/
def normalizeAdminTags (tags : List String) : List String :=
  (tags.foldl (addAdminTag toLowerCase) ([], [])).2

end Tags

/-- `toLowerCase` on the letters of the concrete runs. -/
def toLowerAscii (s : String) : String := String.ofList (s.toList.map Char.toLower)

end OlNode.Rewards
