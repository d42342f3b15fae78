import ShieldNet.Lib.Text

/-!
# The built-in patterns

The patterns that a rule can name: `builtin_pattern` of the agent
(`crates/sng-dlp/src/classifier.rs`) with the catalogue of `detectors`.

Of the checksums behind them, `verhoeff_valid` detects every changed digit and every
two swapped neighbours (`verhoeffValid_detects`).
-/

namespace ShieldNet.Dlp

def classifierPatterns : List (String × String) := [
    ("credit_card", r"\b(?:\d[ -]*?){13,19}\b"),
    ("ssn_us", r"\b\d{3}-\d{2}-\d{4}\b"),
    ("ni_uk", r"(?i)\b[A-CEGHJ-PR-TW-Z]{2}\s?\d{2}\s?\d{2}\s?\d{2}\s?[A-D]\b"),
    ("tfn_au", r"\b\d{3}\s?\d{3}\s?\d{2,3}\b"),
    ("email", r"\b[A-Za-z0-9._%+\-]+@[A-Za-z0-9.\-]+\.[A-Za-z]{2,}\b"),
    ("phone", r"\+\d{1,3}[\s.-]?\(?\d{1,4}\)?[\s.-]?\d{1,4}[\s.-]?\d{1,9}"),
    ("iban", r"\b[A-Z]{2}\d{2}[A-Z0-9]{4}\d{7}([A-Z0-9]?){0,16}\b"),
    ("swift", r"\b[A-Z]{4}[A-Z]{2}[A-Z0-9]{2}([A-Z0-9]{3})?\b"),
    ("routing_number", r"\b\d{9}\b"),
    ("passport_us", r"\b[A-Z]\d{8}\b"),
    ("drivers_license", r"\b[A-Z]\d{4,8}\b"),
    ("icd10", r"\b[A-TV-Z]\d{2}(\.\d{1,4})?\b"),
    ("mrn", r"\b\d{6,10}\b"),
    ("china_resident_id", r"\b\d{17}[\dXx]\b"),
    ("japan_my_number", r"\b\d{4}\s?\d{4}\s?\d{4}\b"),
    ("korea_rrn", r"\b\d{6}-?\d{7}\b"),
    ("singapore_nric", r"(?i)\b[STFGM]\d{7}[A-Z]\b"),
    ("malaysia_mykad", r"\b\d{6}-?\d{2}-?\d{4}\b"),
    ("thailand_id", r"\b\d{1}-?\d{4}-?\d{5}-?\d{2}-?\d{1}\b"),
    ("india_aadhaar", r"\b\d{4}\s?\d{4}\s?\d{4}\b"),
    ("india_pan", r"\b[A-Z]{5}\d{4}[A-Z]\b"),
    ("uae_emirates_id", r"\b784-?\d{4}-?\d{7}-?\d{1}\b"),
    ("saudi_id", r"\b[12]\d{9}\b"),
    ("qatar_qid", r"\b\d{11}\b"),
    ("kuwait_civil_id", r"\b\d{12}\b"),
    ("bahrain_cpr", r"\b\d{9}\b"),
    ("private_key_block",
      r"(?s)-----BEGIN (?:RSA |EC |DSA |OPENSSH |PGP |ENCRYPTED )?PRIVATE KEY-----.*?-----END (?:RSA |EC |DSA |OPENSSH |PGP |ENCRYPTED )?PRIVATE KEY-----"),
    ("aws_access_key_id", r"\b(?:AKIA|ASIA)[A-Z0-9]{16}\b"),
    ("google_api_key", r"\bAIza[0-9A-Za-z_-]{35}\b"),
    ("github_token", r"\b(?:ghp|gho|ghu|ghs|ghr)_[A-Za-z0-9]{36}\b"),
    ("github_pat", r"\bgithub_pat_[A-Za-z0-9_]{82}\b"),
    ("slack_token", r"\bxox[abprs]-[0-9A-Za-z-]{10,}\b"),
    ("stripe_secret_key", r"\b(?:sk|rk)_live_[0-9A-Za-z]{16,}\b"),
    ("jwt", r"\beyJ[A-Za-z0-9_-]{8,}\.eyJ[A-Za-z0-9_-]{8,}\.[A-Za-z0-9_-]{8,}\b"),
    ("btc_address_base58", r"\b[13][1-9A-HJ-NP-Za-km-z]{25,34}\b"),
    ("btc_address_bech32", r"\bbc1[ac-hj-np-z02-9]{6,87}\b"),
    ("eth_address", r"\b0x[0-9a-fA-F]{40}\b"),
    ("openai_api_key", r"\bsk-(?:proj-)?[A-Za-z0-9_-]{20,}\b"),
    ("anthropic_api_key", r"\bsk-ant-[A-Za-z0-9_-]{20,}\b"),
    ("gitlab_pat", r"\bglpat-[A-Za-z0-9_-]{20,}\b"),
    ("sendgrid_api_key", r"\bSG\.[A-Za-z0-9_-]{22}\.[A-Za-z0-9_-]{43}\b"),
    ("npm_token", r"\bnpm_[A-Za-z0-9]{36}\b"),
    ("twilio_api_key", r"\b(?:AC|SK)[0-9a-f]{32}\b")
  ]

/-- `detectors::pattern`, for the names that `builtin_pattern` does not know. -/
def registryPatterns : List (String × String) := [
    ("ni_uk", r"(?i)\b[A-CEGHJ-PR-TW-Z]{2}\s?\d{2}\s?\d{2}\s?\d{2}\s?[A-D]\b"),
    ("uk_nhs", r"\b\d{3}\s?\d{3}\s?\d{4}\b"),
    ("canada_sin", r"\b\d{3}[\s-]?\d{3}[\s-]?\d{3}\b"),
    ("tfn_au", r"\b\d{3}\s?\d{3}\s?\d{2,3}\b"),
    ("australia_medicare", r"\b[2-6]\d{3}\s?\d{5}\s?\d\b"),
    ("germany_personalausweis", r"\b[0-9A-Z]{9}\d\b"),
    ("france_insee", r"\b[1-8]\s?\d{2}\s?\d{2}\s?\d[AB0-9]\s?\d{3}\s?\d{3}\s?\d{2}\b"),
    ("japan_my_number", r"\b\d{4}\s?\d{4}\s?\d{4}\b"),
    ("korea_rrn", r"\b\d{6}-?\d{7}\b"),
    ("india_aadhaar", r"\b\d{4}\s?\d{4}\s?\d{4}\b"),
    ("india_pan", r"\b[A-Z]{5}\d{4}[A-Z]\b"),
    ("brazil_cpf", r"\b\d{3}\.?\d{3}\.?\d{3}-?\d{2}\b"),
    ("brazil_cnpj", r"\b\d{2}\.?\d{3}\.?\d{3}/?\d{4}-?\d{2}\b"),
    ("iban", r"\b[A-Z]{2}\d{2}[A-Z0-9]{4}\d{7}([A-Z0-9]?){0,16}\b"),
    ("eu_vat",
      r"\b(?:AT|BE|BG|CY|CZ|DE|DK|EE|EL|ES|FI|FR|HR|HU|IE|IT|LT|LU|LV|MT|NL|PL|PT|RO|SE|SI|SK)[0-9A-Za-z+*]{2,12}\b"),
    ("spain_dni", r"\b\d{8}[\s-]?[A-Za-z]\b"),
    ("spain_nie", r"\b[XYZxyz][\s-]?\d{7}[\s-]?[A-Za-z]\b"),
    ("italy_codice_fiscale", r"\b[A-Za-z]{6}\d{2}[A-Za-z]\d{2}[A-Za-z]\d{3}[A-Za-z]\b"),
    ("netherlands_bsn", r"\b\d{9}\b"),
    ("poland_pesel", r"\b\d{11}\b"),
    ("belgium_national_number", r"\b\d{2}[.\s-]?\d{2}[.\s-]?\d{2}[.\s-]?\d{3}[.\s-]?\d{2}\b"),
    ("philippines_umid", r"\b\d{4}-?\d{7}-?\d\b"),
    ("thailand_id", r"\b\d{1}-?\d{4}-?\d{5}-?\d{2}-?\d{1}\b"),
    ("indonesia_nik", r"\b\d{16}\b"),
    ("uae_emirates_id", r"\b784-?\d{4}-?\d{7}-?\d{1}\b"),
    ("saudi_id", r"\b[12]\d{9}\b"),
    ("sweden_personnummer", r"\b(?:\d{2})?\d{6}[-+]?\d{4}\b"),
    ("norway_fodselsnummer", r"\b\d{6}\s?\d{5}\b"),
    ("finland_hetu", r"\b\d{6}[-+ABCDEFUVWXY]\d{3}[0-9A-Ya-y]\b"),
    ("portugal_nif", r"\b\d{3}[.\s]?\d{3}[.\s]?\d{3}\b"),
    ("turkey_tckn", r"\b[1-9]\d{10}\b"),
    ("south_africa_id", r"\b\d{6}\s?\d{4}\s?\d{3}\b"),
    ("estonia_isikukood", r"\b[1-8]\d{10}\b"),
    ("ireland_ppsn", r"\b\d{7}[A-Wa-w][A-IWa-iw]?\b"),
    ("switzerland_ahv", r"\b756[.\s]?\d{4}[.\s]?\d{4}[.\s]?\d{2}\b"),
    ("israel_id", r"\b\d{9}\b"),
    ("romania_cnp", r"\b[1-8]\d{12}\b"),
    ("mexico_curp", r"\b[A-Z]{4}\d{6}[HM][A-Z]{2}[A-Z]{3}[A-Z0-9]\d\b")
  ]

def builtinPattern (name : String) : Option String :=
  (classifierPatterns.lookup name).or (registryPatterns.lookup name)

/-! ## Checksums -/

/-- `luhn_valid` and `luhnValid`: the checksum over the digits of a text, from the last on. -/
def luhnValid (text : Text) : Bool :=
  let digits := ((text.filter Char.isDigit).map fun c => c.toNat - '0'.toNat).reverse
  let doubled := digits.mapIdx fun place digit =>
    if place % 2 = 0 then digit else if 9 < 2 * digit then 2 * digit - 9 else 2 * digit
  13 ≤ digits.length && digits.length ≤ 19 && doubled.sum % 10 == 0

/-! ## The Verhoeff check -/

namespace Verhoeff

/-- `MUL` of `verhoeff_valid`: the dihedral group of ten elements. -/
def mul : Vector (Vector (Fin 10) 10) 10 := #v[
  #v[0, 1, 2, 3, 4, 5, 6, 7, 8, 9],
  #v[1, 2, 3, 4, 0, 6, 7, 8, 9, 5],
  #v[2, 3, 4, 0, 1, 7, 8, 9, 5, 6],
  #v[3, 4, 0, 1, 2, 8, 9, 5, 6, 7],
  #v[4, 0, 1, 2, 3, 9, 5, 6, 7, 8],
  #v[5, 9, 8, 7, 6, 0, 4, 3, 2, 1],
  #v[6, 5, 9, 8, 7, 1, 0, 4, 3, 2],
  #v[7, 6, 5, 9, 8, 2, 1, 0, 4, 3],
  #v[8, 7, 6, 5, 9, 3, 2, 1, 0, 4],
  #v[9, 8, 7, 6, 5, 4, 3, 2, 1, 0]]

def perm : Vector (Vector (Fin 10) 10) 8 := #v[
  #v[0, 1, 2, 3, 4, 5, 6, 7, 8, 9],
  #v[1, 5, 7, 6, 2, 8, 3, 0, 9, 4],
  #v[5, 8, 0, 3, 7, 9, 6, 1, 4, 2],
  #v[8, 9, 1, 6, 0, 4, 3, 5, 2, 7],
  #v[9, 4, 5, 3, 1, 2, 6, 8, 7, 0],
  #v[4, 2, 8, 6, 5, 7, 3, 9, 0, 1],
  #v[2, 7, 9, 3, 8, 0, 6, 4, 1, 5],
  #v[7, 0, 4, 6, 9, 1, 3, 2, 5, 8]]

/-- One digit with its place, counted from the check digit. -/
def step (c : Fin 10) (place : Fin 10 × Nat) : Fin 10 :=
  mul[c][perm[Fin.ofNat 8 place.2][place.1]]

end Verhoeff

open Verhoeff

/-- `verhoeff_valid`, from the check digit up, which is the last. -/
def verhoeffValid (digits : List (Fin 10)) : Bool := digits.reverse.zipIdx.foldl step 0 == 0

namespace Verhoeff

open List

theorem assoc : ∀ a b c : Fin 10, mul[mul[a][b]][c] = mul[a][mul[b][c]] := by decide

theorem left_cancel : ∀ a b c : Fin 10, mul[a][b] = mul[a][c] → b = c := by decide

theorem right_cancel : ∀ a b c : Fin 10, mul[a][c] = mul[b][c] → a = b := by decide

theorem perm_injective : ∀ (i : Fin 8) (x y : Fin 10), perm[i][x] = perm[i][y] → x = y := by decide

/-- Two digits that stay apart when they are swapped: the permutations are not symmetric. -/
theorem perm_swap : ∀ i next : Fin 8, next = i + 1 → ∀ x y : Fin 10,
    mul[perm[i][x]][perm[next][y]] = mul[perm[i][y]][perm[next][x]] → x = y := by decide

theorem foldl_step_injective {c c' : Fin 10} (places : List (Fin 10 × Nat))
    (same : places.foldl step c = places.foldl step c') : c = c' := by
  induction places generalizing c c' with
  | nil => exact same
  | cons place rest ih => exact right_cancel c c' _ (ih same)

/-- What valid digits hold between the same digits folds to the same value there. -/
theorem foldl_step_eq {before middle other after : List (Fin 10)}
    (length : middle.length = other.length) (valid : verhoeffValid (before ++ (middle ++ after)))
    (valid' : verhoeffValid (before ++ (other ++ after))) : ∃ c start,
      (middle.reverse.zipIdx start).foldl step c = (other.reverse.zipIdx start).foldl step c := by
  simp only [verhoeffValid, beq_iff_eq, reverse_append, append_assoc, zipIdx_append, foldl_append,
    length_reverse, length] at valid valid'
  exact ⟨_, _, foldl_step_injective _ (valid.trans valid'.symm)⟩

end Verhoeff

/-- **A changed digit and swapped neighbours are detected**, in digits of any length. -/
theorem verhoeffValid_detects (before after : List (Fin 10)) (x y : Fin 10) (differ : x ≠ y) :
    (verhoeffValid (before ++ x :: after) → verhoeffValid (before ++ y :: after) = false) ∧
    (verhoeffValid (before ++ x :: y :: after) →
      verhoeffValid (before ++ y :: x :: after) = false) := by
  constructor
  · intro valid
    refine Bool.eq_false_iff.mpr fun valid' => differ ?_
    obtain ⟨c, start, same⟩ := @foldl_step_eq before [x] [y] after rfl valid valid'
    exact perm_injective _ x y (left_cancel c _ _ same)
  · intro valid
    refine Bool.eq_false_iff.mpr fun valid' => differ ?_
    obtain ⟨c, start, same⟩ := @foldl_step_eq before [x, y] [y, x] after rfl valid valid'
    change mul[mul[c][perm[Fin.ofNat 8 start][y]]][perm[Fin.ofNat 8 (start + 1)][x]] =
      mul[mul[c][perm[Fin.ofNat 8 start][x]]][perm[Fin.ofNat 8 (start + 1)][y]] at same
    rw [assoc, assoc] at same
    exact (perm_swap _ _ (Fin.ofNat_add start 1).symm y x (left_cancel c _ _ same)).symm

theorem verhoeffValid_detects_sample : verhoeffValid [2, 3, 6, 3] ∧
    verhoeffValid [2, 3, 5, 3] = false ∧ verhoeffValid [3, 2, 6, 3] = false :=
  ⟨by decide, (verhoeffValid_detects [2, 3] [3] 6 5 (by decide)).1 (by decide),
    (verhoeffValid_detects [] [6, 3] 2 3 (by decide)).2 (by decide)⟩

end ShieldNet.Dlp
