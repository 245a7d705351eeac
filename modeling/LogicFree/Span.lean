/-! Byte ranges of a source text. -/

namespace LogicFree

/-- A range of UTF-8 byte offsets, `stop` excluded. The two ends are independent:
a tree that was built by hand may carry any pair. -/
structure Span where
  start : Nat := 0
  stop : Nat := 0
deriving Repr, DecidableEq, Inhabited

end LogicFree
