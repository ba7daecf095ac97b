import Lldpad.Lib.Fault
import Lldpad.Lib.Hex

/-!
# `Lldpad.Clif.Args`: the arguments in a message

`get_arg_val_list` and `get_arg_list` (`lldp_util.c`) take a message apart that has a length before
each argument, and before each value. Their callers count first how many slots they need
(`countArgs`).

A text stands for the part of the buffer from `*ioff` to `ilen`. The buffer is zeroed before the
message is received. What is on the stack before the first length is read is a parameter. Memory
does not run out.
-/

namespace Lldpad.Clif

open Lldpad.Lib

/-- An entry of `args` and of `argvals`, each of which may be `NULL` -/
structure Arg where
  arg : Option CStr
  value : Option CStr
  deriving DecidableEq, Repr

/-- The loop of the callers that counts arguments in what is left of a message -/
def countArgs (left : Nat) : Nat :=
  if left > 2 then
    -- two digits, and one character, as something is left
    let left := left - 3
    countArgs (if left > 4 then left - 4 else left) + 1
  else 0
termination_by left
decreasing_by split <;> omega

/-- A value of the given length, which is passed over when there is less -/
def takeValue (text : CStr) (argvalueLen : Nat) : Option CStr × CStr :=
  if text.length ≥ argvalueLen then (some (text.take argvalueLen), text.drop argvalueLen)
  else (none, text)

theorem length_takeValue_le (text : CStr) (argvalueLen : Nat) :
    (takeValue text argvalueLen).2.length ≤ text.length := by
  unfold takeValue
  split
  · rw [List.length_drop]
    omega
  · exact Nat.le_refl _

/-- The loop of `get_arg_val_list`, from slot `i` of `slots` on. `none` stands for the early
exit. -/
def argValLoop (slots : Nat) (text : CStr) (i arglen argvalueLen : Nat) :
    Except Fault (Option (List (CStr × Option CStr))) :=
  if hmore : text.length > 2 then
    let arglen := hexNat 1 text arglen
    let rest := text.drop 2
    if rest.length ≥ arglen then
      if slots ≤ i then .error .outOfBounds
      else
        let behind := rest.drop arglen
        if behind.length ≥ 4 then
          let argvalueLen := hexNat 2 behind argvalueLen
          let value := takeValue (behind.drop 4) argvalueLen
          do
            let args ← argValLoop slots value.2 (i + 1) arglen argvalueLen
            pure (args.map ((rest.take arglen, value.1) :: ·))
        else .ok none
    else .ok none
  else .ok (some [])
termination_by text.length
decreasing_by
  refine Nat.lt_of_le_of_lt (length_takeValue_le _ _) ?_
  simp only [List.length_drop]
  omega

/-- What is on the stack before the lengths are read -/
structure LenStack where
  arglen : Nat
  argvalueLen : Nat

/-- `get_arg_val_list`. A NUL is put behind each argument and each value, also behind one that was
never found. -/
def getArgValList (stack : LenStack) (slots : Nat) (text : CStr) : Except Fault (List Arg) := do
  let args ← argValLoop slots text 0 stack.arglen stack.argvalueLen
  match args with
  | none => pure []
  | some args =>
    if args.all fun a => a.2.isSome then pure (args.map fun a => ⟨some a.1, a.2⟩)
    else .error .outOfBounds

/-- The loop of `get_arg_list` -/
def argLoop (slots : Nat) (text : CStr) (i arglen : Nat) :
    Except Fault (Option (List CStr)) :=
  if hmore : text.length > 2 then
    let arglen := hexNat 1 text arglen
    let rest := text.drop 2
    if rest.length ≥ arglen then
      if slots ≤ i then .error .outOfBounds
      else do
        let args ← argLoop slots (rest.drop arglen) (i + 1) arglen
        pure (args.map (rest.take arglen :: ·))
    else .ok none
  else .ok (some [])
termination_by text.length
decreasing_by
  simp only [List.length_drop]
  omega

def getArgList (stack : LenStack) (slots : Nat) (text : CStr) : Except Fault (List Arg) := do
  let args ← argLoop slots text 0 stack.arglen
  pure ((args.getD []).map fun a => ⟨some a, none⟩)

end Lldpad.Clif
