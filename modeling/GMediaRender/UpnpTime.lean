import Mathlib.Algebra.Group.Int.Defs
import Mathlib.Algebra.Group.Nat.Defs
import Mathlib.Data.Int.Init
import Mathlib.Tactic.SplitIfs

/-!
Times as text and as seconds, and the decimal numbers of action arguments. An int has 32
bits: a number that does not fit is read as the nearest one that does, and arithmetic
wraps.
-/
namespace GMediaRender.UpnpTime

def wrapInt (x : ℤ) : ℤ := x.bmod (2 ^ 32)

theorem wrapInt_lt (x : ℤ) : wrapInt x < 2 ^ 31 := Int.bmod_lt (by decide)

theorem wrapInt_of_fits {x : ℤ} (h : 0 ≤ x) (h' : x < 2 ^ 31) : wrapInt x = x :=
  Int.bmod_eq_of_le (by omega) (by omega)

def clampInt (x : ℤ) : ℤ := max (-(2 ^ 31)) (min x (2 ^ 31 - 1))

def isSpace (c : Char) : Bool :=
  c = ' ' || c = '\t' || c = '\n' || c = '\x0b' || c = '\x0c' || c = '\r'

/-- The leading digits, at most `width` of them, and what follows. -/
def spanDigits : ℕ → List Char → List Char × List Char
  | 0, cs => ([], cs)
  | _ + 1, [] => ([], [])
  | width + 1, c :: cs =>
    if c.isDigit then ((c :: (spanDigits width cs).1), (spanDigits width cs).2) else ([], c :: cs)

def digitsValue (ds : List Char) : ℕ := ds.foldl (fun n c => 10 * n + (c.toNat - '0'.toNat)) 0

/-- A "%d" conversion of at most `width` characters; a sign counts as one of them. -/
def scanInt (width : ℕ) (cs : List Char) : Option (ℤ × List Char) :=
  let cs := cs.dropWhile isSpace
  let (negative, width, cs) := match cs with
    | '-' :: rest => (true, width - 1, rest)
    | '+' :: rest => (false, width - 1, rest)
    | _ => (false, width, cs)
  match spanDigits width cs with
  | ([], _) => none
  | (ds, rest) =>
    let n : ℤ := digitsValue ds
    some (clampInt (if negative then -n else n), rest)

/-- `atoi` -/
def atoi (s : String) : ℤ :=
  match scanInt (s.length + 1) s.toList with
  | none => 0
  | some (n, _) => n

/-- The conversions of `sscanf (s, "%d:%02d:%02d", …)` up to the first that fails. -/
def scanTime (s : String) : ℤ × ℤ × ℤ :=
  match scanInt (s.length + 1) s.toList with
  | none => (0, 0, 0)
  | some (hour, rest) =>
    match rest with
    | ':' :: rest =>
      match scanInt 2 rest with
      | none => (hour, 0, 0)
      | some (minute, rest) =>
        match rest with
        | ':' :: rest =>
          match scanInt 2 rest with
          | none => (hour, minute, 0)
          | some (second, _) => (hour, minute, second)
        | _ => (hour, minute, 0)
    | _ => (hour, 0, 0)

def parseUpnpTime (timeString : String) : ℤ :=
  let t := scanTime timeString
  wrapInt (wrapInt (wrapInt (t.1 * 3600) + wrapInt (t.2.1 * 60)) + t.2.2)

/-- "%d" -/
def printInt (n : ℤ) : String := toString n

/-- "%02d": the sign counts, zeros come after it. -/
def printInt02 (n : ℤ) : String :=
  if 0 ≤ n ∧ n < 10 then "0" ++ printInt n else printInt n

/-- The quotient, and the remainder that replaces the value. -/
def divideLeaveRemainder (val divisor : ℤ) : ℤ × ℤ := (val.tdiv divisor, val.tmod divisor)

def printUpnpTime (t : ℤ) : String :=
  let hour := divideLeaveRemainder t 3600
  let minute := divideLeaveRemainder hour.2 60
  let second := divideLeaveRemainder minute.2 1
  printInt hour.1 ++ ":" ++ printInt02 minute.1 ++ ":" ++ printInt02 second.1

example : parseUpnpTime "1:02:03.5" = 3723 ∧ printUpnpTime 3723 = "1:02:03" := by decide

end GMediaRender.UpnpTime
