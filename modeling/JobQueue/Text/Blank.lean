/-!
# Blank characters

The characters with the Unicode `White_Space` property. Trimming, splitting a cron
expression into fields and the lenient date reader all skip exactly these. ASCII alone is not
enough: the no-break space U+00A0 and the ideographic space U+3000 are blanks too.

* `isBlank` — membership in the `White_Space` set.
* `trimBlank`, `dropBlank`, `splitBlank` — the usual trimming and splitting built on it.
-/

namespace JobQueue.Text

/-- **Unicode `White_Space`**: tab to carriage return, space, next line, no-break space,
ogham space mark, the spaces U+2000 to U+200A, line and paragraph separators, narrow no-break
space, medium mathematical space and ideographic space. -/
def isBlank (c : Char) : Bool :=
  let n := c.toNat
  (0x09 ≤ n && n ≤ 0x0D) || n == 0x20 || n == 0x85 || n == 0xA0 || n == 0x1680 ||
    (0x2000 ≤ n && n ≤ 0x200A) || n == 0x2028 || n == 0x2029 || n == 0x202F ||
    n == 0x205F || n == 0x3000

/-- Drop leading blanks. -/
def dropBlank (cs : List Char) : List Char := cs.dropWhile isBlank

/-- Drop leading and trailing blanks. -/
def trimBlank (s : String) : String :=
  String.ofList ((dropBlank (dropBlank s.toList).reverse).reverse)

/-- Split at runs of blanks, dropping empty pieces. -/
def splitBlank (s : String) : List String :=
  (s.toList.splitBy (fun a b => isBlank a == isBlank b)).filterMap fun piece =>
    match piece with
    | c :: _ => if isBlank c then none else some (String.ofList piece)
    | [] => none

theorem isBlank_space : isBlank ' ' = true := by decide

end JobQueue.Text
