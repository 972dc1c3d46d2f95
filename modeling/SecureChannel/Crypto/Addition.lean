import SecureChannel.Crypto.Residue

/-! Multiples of points, for any way of adding them. -/
namespace SecureChannel

/-- How points of a curve are added, whatever their form. -/
structure Addition (Point : Type) where
  neutral : Point
  add : Point → Point → Point
  double : Point → Point

/-- The sum of two multiples by numbers of so many bits. -/
def Addition.combine {Point : Type} (a : Addition Point) (bits m : Nat) (p : Point) (n : Nat)
    (q : Point) : Point :=
  let both := a.add p q
  ((Residue.bits bits m).zip (Residue.bits bits n)).foldl (fun sum (first, second) =>
    let sum := a.double sum
    match first, second with
    | true, true => a.add sum both
    | true, false => a.add sum p
    | false, true => a.add sum q
    | false, false => sum) a.neutral

end SecureChannel
