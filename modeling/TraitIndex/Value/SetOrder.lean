import TraitIndex.Value.Basic

/-!
The order in which a set lists its members.

A set of numbers keeps them in numbered slots, of which there are more than
twice as many as members unless these are few.  A number goes to the slot that
its key names or, if that is taken, to one of the slots next to it or to others
that follow from the key.  The members are listed by slot.  Other members stay
in the order in which they came.
-/

namespace TraitIndex.Value

open Number

/-- The prime `2 ^ 61 - 1`, by which the keys of numbers are reduced. -/
def keyModulus : Nat := 2305843009213693951

/-- The residue of a quotient by the prime; the denominator is a power of two,
and the sixty-first power of two is one. -/
def residue (r : Ratio) : Nat :=
  let halvings := Nat.log2 r.denominator % 61
  r.numerator % keyModulus * Nat.pow 2 (61 - halvings) % keyModulus

/-- The key of a quotient: its residue with its sign.  The key `-1` is not
used. -/
def keyOfRatio (r : Ratio) : Int :=
  let key : Int := if r.negative then -residue r else residue r
  if key = -1 then -2 else key

def slotKey? : Value → Option Int
  | float (.infinite negative) => some (if negative then -314159 else 314159)
  | float number => number.ratio?.map keyOfRatio
  | value => value.whole?.map fun number => keyOfRatio (.ofInt number)

def slotCount (members : Nat) : Nat :=
  if members ≤ 4 then 8 else Nat.pow 2 (Nat.log2 (2 * members) + 1)

def neighbours (count slot : Nat) : Nat :=
  if slot + 9 < count then 9 else 0

/-- The first free slot, from one slot on.  What is left of the key leads to
further ones. -/
def freeSlot (count : Nat) (taken : List Nat) : Nat → Nat → Nat → Nat
  | 0, slot, _ => slot
  | fuel + 1, slot, key =>
      let near := (List.range (neighbours count slot + 1)).map (slot + ·)
      match near.find? fun slot => !taken.contains slot with
      | some free => free
      | none =>
          freeSlot count taken fuel ((slot * 5 + 1 + key / 32) % count)
            (key / 32)

def slotsOfKeys (count : Nat) : List Nat → List Int → List Nat
  | taken, [] => taken.reverse
  | taken, key :: rest =>
      let unsigned := (key % 18446744073709551616).toNat
      slotsOfKeys count
        (freeSlot count taken (count + 16) (unsigned % count) unsigned :: taken)
          rest

def inSetOrder (members : List Value) : List Value :=
  match members.mapM slotKey? with
  | none => members
  | some keys =>
      let slots := slotsOfKeys (slotCount members.length) [] keys
      ((slots.zip members).mergeSort fun a b => decide (a.1 ≤ b.1)).map (·.2)

end TraitIndex.Value
