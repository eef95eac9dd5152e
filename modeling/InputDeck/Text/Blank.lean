/-!
White space: the blank characters of every script, from the tab to the ideographic space, and
the information separators.  The zero-width space and the byte order mark are not blank.
-/

namespace InputDeck

namespace Text

def isBlank (c : Char) : Bool :=
  let code := c.toNat
  (9 ≤ code && code ≤ 13) || (28 ≤ code && code ≤ 32) || code == 133 || code == 160 ||
    code == 5760 || (8192 ≤ code && code ≤ 8202) || code == 8232 || code == 8233 ||
    code == 8239 || code == 8287 || code == 12288

/-- A white-space character other than an information separator. -/
def isPadding (c : Char) : Bool :=
  isBlank c && !(28 ≤ c.toNat && c.toNat ≤ 31)

@[simp]
theorem isBlank_space : isBlank ' ' = true := by decide

@[simp]
theorem isBlank_newline : isBlank '\n' = true := by decide

end Text

end InputDeck
