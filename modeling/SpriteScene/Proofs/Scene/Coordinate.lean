/-
  Coordinates that are written and read back.

  * `Binary64.reread` is what the text of a coordinate is read as;
  * `exists_found`: it is read alike alone and among the members of an object;
  * `reread_finite`: the text of a finite coordinate is always read, as a finite
    coordinate of the same sign; `reread_eq_error`: that of the others never is;
  * `IsShort.reread_eq_ok`: numbers of at most fifteen digits are read as what
    they were; `reread_nearlyOne`: others need not be.
-/
import SpriteScene.Proofs.Json.Reads
import SpriteScene.Proofs.Json.Reread
import SpriteScene.Scene.Encoding

namespace SpriteScene

open Json

/-- Reads a coordinate as it is read among the members of an object. -/
def readCoordinate : Reader Binary64 := fun cs => do
  let (found, cs) ← skimValue (nestingLimit - 3) cs
  Record.finish found.coordinate cs

/-- What the text of a coordinate is read as. -/
def Binary64.reread (v : Binary64) : Except Fault Binary64 := readText readCoordinate (v.text .json)

namespace Binary64

theorem reads_finite (depth : Nat) (negative : Bool) {m m' : Magnitude} (h : m.reread? = some m') :
    Reads (skimValue depth) ((finite negative m).text .json)
      (.number (.double (.finite negative m'))) := by
  obtain ⟨c, cs, htext, hc, hscalar⟩ := takeScalar_text negative h
  have hopen : ¬ (c = '[' ∨ c = '\x7b') := by
    rintro (rfl | rfl) <;> exact absurd hc (by decide)
  have hspace : isSpace c = false ∧ c ≠ ']' := by
    rcases hc with rfl | hc
    · decide
    · exact not_isSpace_of_isDigit hc
  cases depth with
  | zero =>
    refine takes_atValue htext hspace.1 hspace.2 fun rest hr => ?_
    rw [if_neg hopen, hscalar rest hr]
    rfl
  | succ depth =>
    refine takes_atValue htext hspace.1 hspace.2 fun rest hr => ?_
    rw [if_neg (not_or.1 hopen).1, if_neg (not_or.1 hopen).2, hscalar rest hr]
    rfl

theorem reads_skimmedNull (depth : Nat) : Reads (skimValue depth) "null" .null := by
  have htext : "null".toList = 'n' :: "ull".toList := rfl
  cases depth <;> exact takes_atValue htext (by decide) (by decide) fun _ _ => rfl

theorem takes_coordinate {found : Found} {text : String}
    (h : Reads (skimValue (nestingLimit - 3)) text found) :
    Takes readCoordinate text (found.coordinate.mapError .mismatch) := by
  refine ⟨h.head, fun gap rest hgap hr => ?_⟩
  rw [readCoordinate, h.read gap rest hgap hr]
  exact Record.finish_eq _ _

/-- **The text of a finite coordinate is read** as a finite coordinate of the
    same sign. -/
theorem reread_finite (negative : Bool) {m m' : Magnitude} (h : m.reread? = some m') :
    (finite negative m).reread = .ok (finite negative m') :=
  (takes_coordinate (reads_finite _ negative h)).readText

theorem text_json_of_not_isFinite {v : Binary64} (h : v.isFinite = false) :
    v.text .json = "null" := by
  cases v with
  | nan => rfl
  | infinite => rfl
  | finite => cases h

/-- The coordinates that are not finite become `null`, which is no number. -/
theorem reread_eq_error {v : Binary64} (h : v.isFinite = false) :
    v.reread = .error (.mismatch (.wrongKind .null "f64")) := by
  rw [reread, text_json_of_not_isFinite h]
  exact (takes_coordinate (reads_skimmedNull _)).readText

/-- The coordinate that the text of a coordinate is read as; one whose text is
    refused stays. -/
def afterReading (v : Binary64) : Binary64 :=
  match v.reread with
  | .ok w => w
  | .error _ => v

theorem reread_eq_ok {v : Binary64} (h : v.isFinite) :
    v.reread = .ok v.afterReading ∧ v.afterReading.isFinite := by
  cases v with
  | nan => cases h
  | infinite => cases h
  | finite negative m =>
    obtain ⟨m', hm'⟩ := m.exists_reread?
    rw [afterReading, reread_finite negative hm']
    exact ⟨rfl, rfl⟩

/-- A coordinate is read alike alone and among the members of an object. -/
theorem exists_found (l : Layout) (depth : Nat) (v : Binary64) :
    ∃ found, Reads (skimValue (nestingLimit - 3)) (v.toJson.write l depth) found ∧
      found.coordinate.mapError .mismatch = v.reread := by
  suffices h : ∃ found, Reads (skimValue (nestingLimit - 3)) (v.text .json) found by
    obtain ⟨found, hfound⟩ := h
    refine ⟨found, ?_, (takes_coordinate hfound).readText.symm⟩
    rw [toJson]
    split
    · rwa [Value.write]
    · rename_i hv
      rwa [Value.write, ← text_json_of_not_isFinite (Bool.not_eq_true _ ▸ hv)]
  cases hv : v.isFinite with
  | false =>
    rw [text_json_of_not_isFinite hv]
    exact ⟨_, reads_skimmedNull _⟩
  | true =>
    cases v with
    | nan => cases hv
    | infinite => cases hv
    | finite negative m =>
      obtain ⟨m', hm'⟩ := m.exists_reread?
      exact ⟨_, reads_finite _ negative hm'⟩

/-- The number nearest to `n * 10 ^ -k`. -/
def ofDecimal (negative : Bool) (n k : Nat) : Binary64 :=
  ofMagnitude? negative (Decimal.toMagnitude? ⟨n, -(k : Int)⟩)

/-- The nearest number to a decimal of at most fifteen digits that is zero or not
    below `10 ^ -7`. -/
def IsShort (v : Binary64) : Prop :=
  ∃ negative n k, n < 10 ^ 15 ∧ (n = 0 ∨ 10 ^ k ≤ n * 10 ^ 7) ∧ v = ofDecimal negative n k

theorem isShort_ofDecimal (negative : Bool) {n k : Nat} (hn : n < 10 ^ 15)
    (hk : n = 0 ∨ 10 ^ k ≤ n * 10 ^ 7) : (ofDecimal negative n k).IsShort :=
  ⟨negative, n, k, hn, hk, rfl⟩

/-- **Numbers of at most fifteen digits are read as what they were.** -/
theorem IsShort.reread_eq_ok {v : Binary64} (h : v.IsShort) : v.reread = .ok v := by
  obtain ⟨negative, n, k, hn, hk, rfl⟩ := h
  obtain ⟨m, -, hm, -⟩ := Magnitude.exists_toMagnitude?_le (k := k) hn
  rw [ofDecimal, hm]
  exact reread_finite negative (Magnitude.reread?_of_fifteenDigits hn hk hm)

/-! ## A number that is read as another -/

/-- The number one. -/
def one : Binary64 := .finite false ⟨1023 * Magnitude.binade, by decide⟩

/-- The largest number below one, which is written `0.9999999999999999`. -/
def nearlyOne : Binary64 := .finite false ⟨1023 * Magnitude.binade - 1, by decide⟩

theorem reread_nearlyOne : nearlyOne.reread = .ok one := reread_finite false (by decide +kernel)

end Binary64

end SpriteScene
