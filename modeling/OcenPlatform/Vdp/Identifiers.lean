import OcenPlatform.Encoding.Pattern
import OcenPlatform.Vdp.Receivables

/-! IRNs and GSTINs: the texts that the recognisers of the platform accept. -/

namespace OcenPlatform.Vdp

open Pattern

/-! ## IRNs -/

/-- The grammar of an IRN: 64 hexadecimal digits. -/
def IsIrn (irn : String) : Prop := irn.toList.length = 64 ∧ ∀ c ∈ irn.toList, isHexDigit c

theorem strictMatch_irn {irn : String} :
    strictMatch (List.replicate 64 isHexDigit) irn ↔ IsIrn irn := fits_replicate

theorem irnPattern_eq (irn : String) : irnPattern irn = pyMatch (List.replicate 64 isHexDigit) irn := by
  have htake : (irn.toList.take 64).length = min 64 irn.toList.length := List.length_take
  have hdrop : (irn.toList.drop 64).length = irn.toList.length - 64 := List.length_drop
  rw [Bool.eq_iff_iff]
  simp only [irnPattern, pyMatch, List.length_replicate, Bool.and_eq_true, Bool.or_eq_true,
    decide_eq_true_eq, fits_replicate, List.all_eq_true, htake]
  constructor
  · rintro ⟨hdigits, hlength | hnewline⟩
    · exact ⟨⟨by omega, hdigits⟩, .inl (List.length_eq_zero_iff.mp (by omega))⟩
    · rw [hnewline, List.length_singleton] at hdrop
      exact ⟨⟨by omega, hdigits⟩, .inr hnewline⟩
  · rintro ⟨⟨hlong, hdigits⟩, hend | hnewline⟩
    · rw [hend, List.length_nil] at hdrop
      exact ⟨hdigits, .inl (by omega)⟩
    · exact ⟨hdigits, .inr hnewline⟩

/-- `$` also matches before a final newline. -/
theorem irnPattern_iff {irn : String} :
    irnPattern irn ↔ IsIrn irn ∨ ∃ digits, irn = digits ++ "\n" ∧ IsIrn digits := by
  simp only [irnPattern_eq, pyMatch_iff, strictMatch_irn]

theorem not_isIrn_newline {digits : String} (h : IsIrn digits) : ¬ IsIrn (digits ++ "\n") := by
  rw [← strictMatch_irn] at h ⊢
  exact not_strictMatch_newline h

/-- The ingestion marks an IRN as valid by its grammar, in the store and in its response. -/
def MarksIrn (s : VDPWedgeService) (request : InvoiceIngestionRequest) (invoiceId : Uuid) : Prop :=
  (∃ invoice, PyDict.find? (s.ingestInvoice request invoiceId).2.invoices invoiceId = some invoice ∧
    (invoice.irnValid ↔ IsIrn request.irn)) ∧
  ∀ response, (s.ingestInvoice request invoiceId).1 = .ok response →
    (response.irnValid ↔ IsIrn request.irn)

theorem irnValid_of_response {s : VDPWedgeService} {request : InvoiceIngestionRequest}
    {invoiceId : Uuid} {response : InvoiceIngestionResponse}
    (h : s.response request invoiceId = .ok response) : response.irnValid = irnPattern request.irn := by
  obtain ⟨kind1, outcome, reason, -, -, -, rfl⟩ := VDPWedgeService.response_cases h
  rfl

theorem not_marksIrn {s : VDPWedgeService} {request : InvoiceIngestionRequest} {invoiceId : Uuid}
    {digits : String} (hirn : request.irn = digits ++ "\n") (hdigits : IsIrn digits) :
    ¬ MarksIrn s request invoiceId := by
  rintro ⟨⟨invoice, hinvoice, hmarks⟩, -⟩
  rw [VDPWedgeService.find?_ingestInvoice] at hinvoice
  obtain rfl := Option.some.inj hinvoice
  have hgrammar : IsIrn request.irn := hmarks.mp (irnPattern_iff.mpr (.inr ⟨digits, hirn, hdigits⟩))
  exact not_isIrn_newline hdigits (hirn ▸ hgrammar)

/-- **An IRN is marked by its grammar exactly if** it is not 64 hexadecimal digits and a newline. -/
theorem marksIrn_iff (s : VDPWedgeService) (request : InvoiceIngestionRequest) (invoiceId : Uuid) :
    MarksIrn s request invoiceId ↔ ¬ ∃ digits, request.irn = digits ++ "\n" ∧ IsIrn digits := by
  constructor
  · rintro hmarks ⟨digits, hirn, hdigits⟩
    exact not_marksIrn hirn hdigits hmarks
  · intro hnewline
    have hmarks : irnPattern request.irn ↔ IsIrn request.irn :=
      irnPattern_iff.trans (or_iff_left hnewline)
    constructor
    · exact ⟨_, VDPWedgeService.find?_ingestInvoice s request invoiceId, hmarks⟩
    · intro response hresponse
      rwa [irnValid_of_response hresponse]

/-- An IRN that was read with the end of its line. -/
theorem irnWithNewline_marked : ¬ MarksIrn { zen := d0Engine }
    { validInvoice with irn := String.ofList (List.replicate 64 'a') ++ "\n" } ⟨1⟩ := by
  refine not_marksIrn rfl (strictMatch_irn.mp ?_)
  decide

/-! ## GSTINs -/

def isDigit (c : Char) : Bool := '0' ≤ c ∧ c ≤ '9'

def isUpper (c : Char) : Bool := 'A' ≤ c ∧ c ≤ 'Z'

/-- `[0-9]{2}[A-Z]{5}[0-9]{4}[A-Z]{1}`, the state and the PAN. -/
def statePan : List CharClass :=
  List.replicate 2 isDigit ++ List.replicate 5 isUpper ++ List.replicate 4 isDigit ++ [isUpper]

/-- A GSTIN with this class for its entity number, the thirteenth character. -/
def gstinClasses (entity : CharClass) : List CharClass :=
  statePan ++ entity :: [fun c => c = 'Z', fun c => isDigit c || isUpper c]

/-- The pattern of the model `GSTIN`: `[1-9A-Z]{1}` at the entity number. -/
def canonicalClasses : List CharClass :=
  gstinClasses fun c => ('1' ≤ c ∧ c ≤ '9' : Bool) || isUpper c

/-- `GSTIN_PATTERN` of the sandbox: `[A-Z0-9]{1}` at the entity number. -/
def sandboxClasses : List CharClass := gstinClasses fun c => isUpper c || isDigit c

/-- The constructor of the model `GSTIN` accepts the value. -/
def Gstin.accepts (value : String) : Bool :=
  value.length = 15 && strictMatch canonicalClasses value

structure GSTINValidation where
  gstin : String
  valid : Bool
  tradeName : Option String := none
  status : String := "Active"

/-- `SandboxGSTClient.validate_gstin`. -/
def validateGstin (gstin : String) : GSTINValidation :=
  let valid := pyMatch sandboxClasses gstin
  { gstin
    valid
    tradeName := if valid then some "Sandbox Enterprise Pvt. Ltd." else none
    status := if valid then "Active" else "Invalid" }

/-- The entity number is zero. -/
def zeroEntityClasses : List CharClass := gstinClasses fun c => c = '0'

theorem accepts_iff {value : String} : Gstin.accepts value ↔ strictMatch canonicalClasses value := by
  rw [Gstin.accepts, Bool.and_eq_true, decide_eq_true_eq]
  exact and_iff_right_of_imp fun h => String.length_toList ▸ length_of_fits h

theorem isDigit_eq (c : Char) : isDigit c = (('1' ≤ c ∧ c ≤ '9' : Bool) || decide (c = '0')) := by
  have hle : ∀ c d : Char, c ≤ d ↔ c.toNat ≤ d.toNat := fun _ _ => Iff.rfl
  have hzero : '0'.toNat = 48 := rfl
  have hone : '1'.toNat = 49 := rfl
  have hnine : '9'.toNat = 57 := rfl
  rw [isDigit, Bool.eq_iff_iff, Bool.or_eq_true]
  simp only [decide_eq_true_eq, hle, ← Char.toNat_inj]
  omega

/-- The class of the sandbox has one character more. -/
theorem strictMatch_sandbox {s : String} : strictMatch sandboxClasses s ↔
    strictMatch canonicalClasses s ∨ strictMatch zeroEntityClasses s := by
  have hclass : ∀ c : Char, (isUpper c || isDigit c) =
      (('1' ≤ c ∧ c ≤ '9' : Bool) || isUpper c || decide (c = '0')) := by
    intro c
    rw [isDigit_eq, ← Bool.or_assoc, Bool.or_comm (isUpper c)]
  rw [strictMatch, sandboxClasses, gstinClasses, fits_union hclass, Bool.or_eq_true]
  rfl

theorem not_canonical_of_zeroEntity {s : String} (h : strictMatch zeroEntityClasses s) :
    ¬ strictMatch canonicalClasses s := by
  intro hcanonical
  obtain ⟨c, hc, hzero⟩ := exists_of_fits_both hcanonical h
  obtain rfl : c = '0' := of_decide_eq_true hzero
  exact absurd hc (by decide)

theorem valid_iff {s : String} : (validateGstin s).valid ↔
    strictMatch sandboxClasses s ∨ ∃ t, s = t ++ "\n" ∧ strictMatch sandboxClasses t := pyMatch_iff

/-- The model `GSTIN` accepts the text exactly if the sandbox reports it as valid. -/
theorem accepts_iff_valid {s : String} : (Gstin.accepts s ↔ (validateGstin s).valid) ↔
    ¬ strictMatch zeroEntityClasses s ∧ ¬ ∃ t, s = t ++ "\n" ∧ strictMatch sandboxClasses t := by
  rw [accepts_iff, valid_iff, strictMatch_sandbox]
  constructor
  · intro hagrees
    refine ⟨fun hzero => not_canonical_of_zeroEntity hzero (hagrees.mpr (.inl (.inr hzero))), ?_⟩
    rintro ⟨t, rfl, ht⟩
    have hcanonical := hagrees.mpr (.inr ⟨t, rfl, ht⟩)
    exact not_strictMatch_newline ht (strictMatch_sandbox.mpr (.inl hcanonical))
  · rintro ⟨hzero, hnewline⟩
    rw [or_iff_left hnewline, or_iff_left hzero]

/-- The three checks of GSTINs agree: the model and the sandbox on a text, and the ingestion of a
request marks only what the model accepts. -/
def GstinsAgree (gstin : String) (s : VDPWedgeService) (request : InvoiceIngestionRequest)
    (invoiceId : Uuid) : Prop :=
  (Gstin.accepts gstin ↔ (validateGstin gstin).valid) ∧
  ∀ invoice, PyDict.find? (s.ingestInvoice request invoiceId).2.invoices invoiceId = some invoice →
    invoice.gstinValid → Gstin.accepts request.vendorGstin

/-- **The checks agree exactly if** the text is no GSTIN with entity number zero and none with a
newline added, and the vendor's text, if it has 15 characters, is of the form of a GSTIN. -/
theorem gstinsAgree_iff (gstin : String) (s : VDPWedgeService) (request : InvoiceIngestionRequest)
    (invoiceId : Uuid) : GstinsAgree gstin s request invoiceId ↔
      (¬ strictMatch zeroEntityClasses gstin ∧
        ¬ ∃ t, gstin = t ++ "\n" ∧ strictMatch sandboxClasses t) ∧
      (request.vendorGstin.length = 15 → strictMatch canonicalClasses request.vendorGstin) := by
  refine and_congr accepts_iff_valid ?_
  rw [VDPWedgeService.find?_ingestInvoice]
  simp only [Option.some.injEq, forall_eq', VDPWedgeService.newInvoice, decide_eq_true_eq, accepts_iff]

/-- A GSTIN with entity number zero, and 15 letters. -/
theorem zeroEntity_disagrees :
    ¬ GstinsAgree "27AADCB2230M0ZT" { zen := d0Engine } validInvoice ⟨1⟩ ∧
    ¬ GstinsAgree "27AADCB2230M1ZT" { zen := d0Engine }
      { validInvoice with vendorGstin := "AAAAAAAAAAAAAAA" } ⟨1⟩ := by
  refine ⟨fun h => absurd h.1 (by decide), fun h => ?_⟩
  exact absurd (h.2 _ (VDPWedgeService.find?_ingestInvoice _ _ _) rfl) (by decide)

end OcenPlatform.Vdp
