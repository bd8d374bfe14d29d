set_option autoImplicit false

/-! A terminal: what is printed, what is noted beside it, and what the operator types. -/
namespace Gleaner

structure Console (m : Type → Type) where
  /-- Puts text on the standard output. -/
  print : String → m Unit
  /-- Puts text on the standard error. -/
  note : String → m Unit
  /-- The bytes up to the end of the next line, its line end included; none at the end of input. -/
  readLine : m (List UInt8)

end Gleaner
