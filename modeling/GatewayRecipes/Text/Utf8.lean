/-! UTF-8: lengths of encoded characters, and decoding that says where and how it fails. -/
namespace GatewayRecipes.Text

def byteLength : List Char → Nat
  | [] => 0
  | c :: cs => c.utf8Size + byteLength cs

@[simp] theorem byteLength_nil : byteLength [] = 0 := rfl

@[simp] theorem byteLength_cons (c : Char) (cs : List Char) :
    byteLength (c :: cs) = c.utf8Size + byteLength cs := rfl

@[simp] theorem byteLength_append (as bs : List Char) :
    byteLength (as ++ bs) = byteLength as + byteLength bs := by
  induction as with
  | nil => simp
  | cons c as ih => simp [ih, Nat.add_assoc]

/-- Why bytes are not UTF-8: the bytes before `validUpTo` are, and then either `count` bytes cannot
start a character or the input ends within one. -/
inductive Utf8Fault
  | invalid (validUpTo count : Nat)
  | incomplete (validUpTo : Nat)
  deriving Repr, DecidableEq, Inhabited

namespace Utf8Fault

def validUpTo : Utf8Fault → Nat
  | invalid v _ | incomplete v => v

def message : Utf8Fault → String
  | invalid v count =>
    "invalid utf-8 sequence of " ++ toString count ++ " bytes from index " ++ toString v
  | incomplete v => "incomplete utf-8 byte sequence from index " ++ toString v

end Utf8Fault

/-- How many bytes follow a first byte, and the range of the next one. -/
def followers (b : Nat) : Option (Nat × Nat × Nat) :=
  if b < 0x80 then some (0, 0x80, 0xbf)
  else if b < 0xc2 then none
  else if b < 0xe0 then some (1, 0x80, 0xbf)
  else if b = 0xe0 then some (2, 0xa0, 0xbf)
  else if b = 0xed then some (2, 0x80, 0x9f)
  else if b < 0xf0 then some (2, 0x80, 0xbf)
  else if b = 0xf0 then some (3, 0x90, 0xbf)
  else if b < 0xf4 then some (3, 0x80, 0xbf)
  else if b = 0xf4 then some (3, 0x80, 0x8f)
  else none

/-- Read `n` further bytes of a character, the next one between `low` and `high` and the others
continuation bytes. The error is the number of bytes that were read, or none at the end of input. -/
def continueChar : Nat → Nat → Nat → Nat → Nat → List UInt8 → Except (Option Nat) Nat
  | 0, _, _, _, code, _ => .ok code
  | _ + 1, _, _, _, _, [] => .error none
  | n + 1, low, high, read, code, b :: rest =>
    if low ≤ b.toNat ∧ b.toNat ≤ high then
      continueChar n 0x80 0xbf (read + 1) (code * 64 + b.toNat % 64) rest
    else .error (some read)

/-- The bits of a first byte that belong to the code point, by the number of bytes that follow. -/
def leadBits (b : Nat) : Nat → Nat
  | 0 => b
  | 1 => b % 32
  | 2 => b % 16
  | _ => b % 8

/-- Decode bytes of which `start` came before. -/
def decodeUtf8From (start : Nat) : List UInt8 → Except Utf8Fault (List Char)
  | [] => .ok []
  | b :: rest =>
    match followers b.toNat with
    | none => .error (.invalid start 1)
    | some (n, low, high) =>
      match continueChar n low high 1 (leadBits b.toNat n) rest with
      | .error none => .error (.incomplete start)
      | .error (some count) => .error (.invalid start count)
      | .ok code =>
        match decodeUtf8From (start + 1 + n) (rest.drop n) with
        | .error fault => .error fault
        | .ok cs => .ok (Char.ofNat code :: cs)
termination_by bytes => bytes.length
decreasing_by simp only [List.length_cons, List.length_drop]; omega

def decodeUtf8 (bytes : List UInt8) : Except Utf8Fault (List Char) := decodeUtf8From 0 bytes

end GatewayRecipes.Text
