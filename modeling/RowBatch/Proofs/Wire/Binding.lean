import RowBatch.Wire.Bind

/-!
What binding does to a message: it puts the bytes of the value behind it, which the value and the
type determine, or leaves it as it was. Each kind of value has its types, and only an integer that
is too long for its type, or a number without a decimal, is refused by one of them.
-/

namespace RowBatch
namespace Wire

namespace Writing

variable {ε α β : Type}

/-- A step that puts the same bytes behind any message, and never fails. -/
def Succeeds (step : Writing ε α) : Prop :=
  ∃ bytes a, ∀ message, step.onto message = (message ++ bytes, .ok a)

/-- A step that puts the same bytes behind any message, and none when it fails. -/
def Framed (step : Writing ε α) : Prop :=
  ∃ bytes answer, (∀ message, step.onto message = (message ++ bytes, answer)) ∧
    ∀ e, answer = .error e → bytes = []

theorem succeeds_put (bytes : List UInt8) : Succeeds (put bytes : Writing ε Unit) :=
  ⟨bytes, (), onto_put bytes⟩

theorem succeeds_pure (a : α) : Succeeds (pure a : Writing ε α) :=
  ⟨[], a, fun message => by simp⟩

theorem Succeeds.framed {step : Writing ε α} (h : Succeeds step) : Framed step := by
  obtain ⟨bytes, a, hstep⟩ := h
  exact ⟨bytes, .ok a, hstep, fun _ hfailed => nomatch hfailed⟩

theorem framed_throw (e : ε) : Framed (throw e : Writing ε α) :=
  ⟨[], .error e, fun message => by simp, fun _ _ => rfl⟩

theorem framed_lift {x : Except ε α} {next : α → Writing ε β} (h : ∀ a, Framed (next a)) :
    Framed ((liftM x : Writing ε α) >>= next) := by
  cases x with
  | ok a =>
    obtain ⟨bytes, answer, hnext, hfailed⟩ := h a
    exact ⟨bytes, answer, fun message => by rw [onto_bind, onto_lift]; exact hnext message, hfailed⟩
  | error e =>
    exact ⟨[], .error e, fun message => by rw [onto_bind, onto_lift, List.append_nil],
      fun _ _ => rfl⟩

theorem Framed.bind {step : Writing ε α} {next : α → Writing ε β} (hstep : Framed step)
    (hnext : ∀ a, Succeeds (next a)) : Framed (step >>= next) := by
  obtain ⟨bytes, answer, hstep, hfailed⟩ := hstep
  cases answer with
  | ok a =>
    obtain ⟨more, b, hmore⟩ := hnext a
    refine ⟨bytes ++ more, .ok b, fun message => ?_, fun _ h => nomatch h⟩
    rw [onto_bind, hstep]
    simp only [hmore, List.append_assoc]
  | error e =>
    refine ⟨[], .error e, fun message => ?_, fun _ _ => rfl⟩
    rw [onto_bind, hstep, hfailed e rfl]

end Writing

theorem framed_writeChars (lead : List UInt8) (s : String) : (writeChars lead s).Framed :=
  (Writing.succeeds_put lead).framed.bind fun _ => Writing.succeeds_put _

theorem framed_writeInt (v : Int64) (type : ParameterType) : (writeInt v type).Framed := by
  unfold writeInt
  cases type.encoding? with
  | none => exact Writing.framed_throw _
  | some encoding =>
    cases encoding with
    | int2 | int4 => exact Writing.framed_lift fun _ => (Writing.succeeds_put _).framed
    | text lead => exact framed_writeChars lead _
    | bytea => exact Writing.framed_throw _
    | _ => exact (Writing.succeeds_put _).framed

theorem framed_writeFloat (x : Binary64) (type : ParameterType) : (writeFloat x type).Framed := by
  unfold writeFloat
  cases type.encoding? with
  | none => exact Writing.framed_throw _
  | some encoding =>
    cases encoding with
    | float4 | float8 => exact (Writing.succeeds_put _).framed
    | numeric => exact Writing.framed_lift fun _ => (Writing.succeeds_put _).framed
    | text lead => exact framed_writeChars lead _
    | _ => exact Writing.framed_throw _

theorem framed_writeText (s : String) (type : ParameterType) : (writeText s type).Framed := by
  unfold writeText
  split
  · exact framed_writeChars _ s
  · exact Writing.framed_throw _

theorem framed_writeOwn (kind : ValueKind) (encoding : Encoding) (bytes : List UInt8)
    (type : ParameterType) : (writeOwn kind encoding bytes type).Framed := by
  unfold writeOwn
  split
  · exact (Writing.succeeds_put _).framed
  · exact Writing.framed_throw _

theorem framed_write (v : Value) (type : ParameterType) : (write v type).Framed := by
  cases v with
  | null => exact (Writing.succeeds_pure true).framed
  | bool b => exact (framed_writeOwn ..).bind fun _ => Writing.succeeds_pure false
  | int n => exact (framed_writeInt n type).bind fun _ => Writing.succeeds_pure false
  | float x => exact (framed_writeFloat x type).bind fun _ => Writing.succeeds_pure false
  | text s => exact (framed_writeText s type).bind fun _ => Writing.succeeds_pure false
  | bytes bs => exact (framed_writeOwn ..).bind fun _ => Writing.succeeds_pure false

def kind? : Value → Option ValueKind
  | .null => none
  | .bool _ => some .bool
  | .int _ => some .integer
  | .float _ => some .float
  | .text _ => some .text
  | .bytes _ => some .bytes

/-- The types that an integer has an encoding for, besides texts. -/
def integerTypes : List ParameterType :=
  [.builtin "int2", .builtin "int4", .builtin "int8", .builtin "float4", .builtin "float8",
    .builtin "numeric", .builtin "bool"]

def floatTypes : List ParameterType := [.builtin "float4", .builtin "float8", .builtin "numeric"]

/-- The types that a value has an encoding for, which its kind alone decides. -/
def Pairs : Value → ParameterType → Prop
  | .null, _ => True
  | .bool _, type => type = .builtin "bool"
  | .int _, type => type ∈ integerTypes ∨ type.IsTextual
  | .float _, type => type ∈ floatTypes ∨ type.IsTextual
  | .text _, type => type.IsTextual
  | .bytes _, type => type = .builtin "bytea"

/-- The values that have a counterpart in a type that they are paired with. -/
def Converts : Value → ParameterType → Prop
  | .int v, type =>
    (type = .builtin "int2" → -2 ^ 15 ≤ v.toInt ∧ v.toInt < 2 ^ 15) ∧
      (type = .builtin "int4" → -2 ^ 31 ≤ v.toInt ∧ v.toInt < 2 ^ 31)
  | .float x, type => type = .builtin "numeric" → (Decimal.ofBinary64? x).isSome = true
  | _, _ => True

inductive Answers (v : Value) (type : ParameterType) : Except BindError Bool → Prop
  | written (hpairs : Pairs v type) (hconverts : Converts v type) :
      Answers v type (.ok v.isNull)
  | wrongType {kind} (hkind : kind? v = some kind) (hpairs : ¬Pairs v type) :
      Answers v type (.error (.wrongType kind type))
  | unconvertible {e} (hpairs : Pairs v type) (hconverts : ¬Converts v type)
      (he : e ∈ [.tooSmall, .tooLarge, .noDecimal]) : Answers v type (.error e)

theorem bind_answer {v : Value} {type : ParameterType} (step : Writing BindError Unit)
    (h : write v type = (step >>= fun _ => pure false)) (message : List UInt8) :
    (bind v type message).2 = (step.onto message).2.map fun _ => false := by
  rw [bind, h, Writing.onto_bind]
  rcases step.onto message with ⟨written, answer⟩
  cases answer <;> rfl

def Fits (width : Nat) (v : Int) : Prop := -2 ^ (8 * width - 1) ≤ v ∧ v < 2 ^ (8 * width - 1)

theorem narrow_eq_ok {width : Nat} {v : Int} (h : Fits width v) : narrow width v = .ok v := by
  obtain ⟨hlow, hhigh⟩ := h
  rw [narrow, if_neg (by omega), if_neg (by omega)]

theorem narrow_eq_error {width : Nat} {v : Int} (h : ¬Fits width v) :
    ∃ e ∈ [BindError.tooSmall, .tooLarge], narrow width v = .error e := by
  unfold narrow
  by_cases hlow : v < -2 ^ (8 * width - 1)
  · exact ⟨.tooSmall, by simp, if_pos hlow⟩
  · have hhigh : 2 ^ (8 * width - 1) ≤ v := by
      by_cases hhigh : v < 2 ^ (8 * width - 1)
      · exact absurd ⟨by omega, hhigh⟩ h
      · omega
    exact ⟨.tooLarge, by simp, by simp only [if_neg hlow, if_pos hhigh]⟩

section Narrowed

variable {n : Int64} {type : ParameterType} (width : Nat)
  (hwrite : writeInt n type =
    (liftM (narrow width n.toInt) >>= fun m => Writing.put (signed width m)))
include hwrite

theorem bind_of_fits (h : Fits width n.toInt) (message : List UInt8) :
    bind (.int n) type message = (message ++ signed width n.toInt, .ok false) := by
  show (writeInt n type >>= fun _ => pure false : Writing BindError Bool).onto message = _
  rw [hwrite, narrow_eq_ok h]
  rfl

theorem bind_of_not_fits (h : ¬Fits width n.toInt) (message : List UInt8) :
    ∃ e ∈ [BindError.tooSmall, .tooLarge], bind (.int n) type message = (message, .error e) := by
  obtain ⟨e, he, hnarrow⟩ := narrow_eq_error h
  refine ⟨e, he, ?_⟩
  show (writeInt n type >>= fun _ => pure false : Writing BindError Bool).onto message = _
  rw [hwrite, hnarrow]
  rfl

theorem answers_narrowed (hpairs : Pairs (.int n) type)
    (hconverts : Converts (.int n) type ↔ Fits width n.toInt) (message : List UInt8) :
    Answers (.int n) type (bind (.int n) type message).2 := by
  by_cases h : Fits width n.toInt
  · rw [bind_of_fits width hwrite h]
    exact .written hpairs (hconverts.mpr h)
  · obtain ⟨e, he, hbind⟩ := bind_of_not_fits width hwrite h message
    rw [hbind]
    exact .unconvertible hpairs (mt hconverts.mp h)
      (List.mem_append_left [BindError.noDecimal] he)

end Narrowed

theorem converts_of_isTextual {v : Value} {type : ParameterType} (h : type.IsTextual) :
    Converts v type := by
  have hne {name : String} (hname : ¬(ParameterType.builtin name).IsTextual) :
      type ≠ .builtin name := by
    rintro rfl
    exact hname h
  cases v with
  | int n => exact ⟨fun ht => absurd ht (hne (by decide)), fun ht => absurd ht (hne (by decide))⟩
  | float x => exact fun ht => absurd ht (hne (by decide))
  | _ => trivial

theorem not_pairs_of_encoding?_eq_none {v : Value} {kind : ValueKind} (hkind : kind? v = some kind)
    {type : ParameterType} (h : type.encoding? = none) : ¬Pairs v type := by
  have htextual : ¬type.IsTextual := by
    intro ht
    rw [ParameterType.encoding?_of_isTextual ht] at h
    exact nomatch h
  cases v with
  | null => exact nomatch hkind
  | bool b => rintro rfl; exact nomatch h
  | int n =>
    have hnone : ∀ type ∈ integerTypes, type.encoding? ≠ none := by decide
    rintro (hmem | ht)
    · exact hnone type hmem h
    · exact htextual ht
  | float x =>
    have hnone : ∀ type ∈ floatTypes, type.encoding? ≠ none := by decide
    rintro (hmem | ht)
    · exact hnone type hmem h
    · exact htextual ht
  | text s => exact htextual
  | bytes bs => rintro rfl; exact nomatch h

theorem answers_int (n : Int64) (type : ParameterType) (message : List UInt8) :
    Answers (.int n) type (bind (.int n) type message).2 := by
  rcases type.encoding?_cases with ⟨name, e, howns, rfl, -⟩ | ⟨htext, h⟩ | ⟨-, h⟩
  · have hconverts (h2 : name ≠ "int2") (h4 : name ≠ "int4") :
        Converts (.int n) (.builtin name) :=
      ⟨fun h => absurd h (by simpa using h2), fun h => absurd h (by simpa using h4)⟩
    cases howns with
    | int2 =>
      refine answers_narrowed 2 rfl (.inl (by decide)) ⟨fun h => h.1 rfl, ?_⟩ message
      exact fun h => ⟨fun _ => h, fun h => absurd h (by decide)⟩
    | int4 =>
      refine answers_narrowed 4 rfl (.inl (by decide)) ⟨fun h => h.2 rfl, ?_⟩ message
      exact fun h => ⟨fun h => absurd h (by decide), fun _ => h⟩
    | bytea => exact .wrongType rfl (by simp only [Pairs]; decide)
    | _ => exact .written (.inl (by decide)) (hconverts (by decide) (by decide))
  · rw [bind_answer (writeInt n type) rfl, writeInt, h]
    exact .written (.inr htext) (converts_of_isTextual htext)
  · rw [bind_answer (writeInt n type) rfl, writeInt, h]
    exact .wrongType rfl (not_pairs_of_encoding?_eq_none rfl h)

theorem answers_float (x : Binary64) (type : ParameterType) (message : List UInt8) :
    Answers (.float x) type (bind (.float x) type message).2 := by
  rw [bind_answer (writeFloat x type) rfl]
  rcases type.encoding?_cases with ⟨name, e, howns, rfl, -⟩ | ⟨htext, h⟩ | ⟨-, h⟩
  · cases howns with
    | float4 | float8 => exact .written (.inl (by decide)) fun h => absurd h (by decide)
    | numeric =>
      have hpairs : Pairs (.float x) (.builtin "numeric") := .inl (by decide)
      have hanswer : ((writeFloat x (.builtin "numeric")).onto message).2 =
          (decimal x).map fun _ => () := by
        show ((liftM (decimal x) >>= fun d => Writing.put (Numeric.ofDecimal d).bytes :
          Writing BindError Unit).onto message).2 = _
        cases decimal x <;> rfl
      rw [hanswer, decimal]
      cases h : Decimal.ofBinary64? x with
      | some d => exact .written hpairs fun _ => by rw [h]; rfl
      | none => exact .unconvertible hpairs (fun hc => by simpa [h] using hc rfl) (by simp)
    | _ => exact .wrongType rfl (by simp only [Pairs]; decide)
  · rw [writeFloat, h]
    exact .written (.inr htext) (converts_of_isTextual htext)
  · rw [writeFloat, h]
    exact .wrongType rfl (not_pairs_of_encoding?_eq_none rfl h)

theorem answers_text (s : String) (type : ParameterType) (message : List UInt8) :
    Answers (.text s) type (bind (.text s) type message).2 := by
  rw [bind_answer (writeText s type) rfl]
  rcases type.encoding?_cases with ⟨name, e, howns, rfl, -⟩ | ⟨htext, h⟩ | ⟨-, h⟩
  · cases howns <;> exact .wrongType rfl (by simp only [Pairs]; decide)
  · rw [writeText, h]
    exact .written htext trivial
  · rw [writeText, h]
    exact .wrongType rfl (not_pairs_of_encoding?_eq_none rfl h)

theorem answers_own (v : Value) {name : String} {encoding : Encoding}
    (howns : ParameterType.Owns name encoding) {kind : ValueKind} (hkind : kind? v = some kind)
    {type : ParameterType} {bytes : List UInt8}
    (hwrite : write v type = (writeOwn kind encoding bytes type >>= fun _ => pure false))
    (hpairs : Pairs v type ↔ type = .builtin name) (hconverts : Converts v type)
    (message : List UInt8) : Answers v type (bind v type message).2 := by
  have hnull : v.isNull = false := by
    cases v with
    | null => exact nomatch hkind
    | _ => rfl
  rw [bind_answer _ hwrite, writeOwn]
  by_cases htype : type = .builtin name
  · rw [if_pos (howns.encoding?_eq_iff.mpr htype)]
    show Answers v type (.ok false)
    rw [← hnull]
    exact .written (hpairs.mpr htype) hconverts
  · rw [if_neg (mt howns.encoding?_eq_iff.mp htype)]
    exact .wrongType hkind (mt hpairs.mp htype)

theorem answers_bind (v : Value) (type : ParameterType) (message : List UInt8) :
    Answers v type (bind v type message).2 := by
  cases v with
  | null => exact .written trivial trivial
  | bool b => exact answers_own (.bool b) .bool rfl rfl Iff.rfl trivial message
  | int n => exact answers_int n type message
  | float x => exact answers_float x type message
  | text s => exact answers_text s type message
  | bytes bs => exact answers_own (.bytes bs) .bytea rfl rfl Iff.rfl trivial message

theorem exists_ok_iff {v : Value} {type : ParameterType} (message : List UInt8) :
    (∃ null, (bind v type message).2 = .ok null) ↔ Pairs v type ∧ Converts v type := by
  have hanswers := answers_bind v type message
  generalize (bind v type message).2 = answer at hanswers
  cases hanswers with
  | written hpairs hconverts => exact ⟨fun _ => ⟨hpairs, hconverts⟩, fun _ => ⟨_, rfl⟩⟩
  | wrongType _ hpairs => exact ⟨fun ⟨_, h⟩ => (nomatch h), fun h => absurd h.1 hpairs⟩
  | unconvertible _ hconverts _ =>
    exact ⟨fun ⟨_, h⟩ => (nomatch h), fun h => absurd h.2 hconverts⟩

theorem exists_error_iff {v : Value} {type : ParameterType} (message : List UInt8) :
    (∃ e, (bind v type message).2 = .error e) ↔ ¬(Pairs v type ∧ Converts v type) := by
  rw [← exists_ok_iff message]
  cases (bind v type message).2 <;> simp

section Texts

variable {type : ParameterType}

theorem bind_of_writeChars {v : Value} {s : String}
    (hwrite : write v type = (writeChars type.lead s >>= fun _ => pure false))
    (message : List UInt8) :
    bind v type message = (message ++ (type.lead ++ utf8 s), .ok false) := by
  rw [bind, hwrite, ← List.append_assoc]
  rfl

variable (h : type.IsTextual) (message : List UInt8)
include h

theorem bind_text (s : String) :
    bind (.text s) type message = (message ++ (type.lead ++ utf8 s), .ok false) :=
  bind_of_writeChars (by rw [write, writeText, ParameterType.encoding?_of_isTextual h]) message

theorem bind_int_text (n : Int64) :
    bind (.int n) type message = (message ++ (type.lead ++ utf8 n.toInt.repr), .ok false) :=
  bind_of_writeChars (by rw [write, writeInt, ParameterType.encoding?_of_isTextual h]) message

theorem bind_float_text (x : Binary64) :
    bind (.float x) type message = (message ++ (type.lead ++ utf8 x.text), .ok false) :=
  bind_of_writeChars (by rw [write, writeFloat, ParameterType.encoding?_of_isTextual h]) message

end Texts

theorem bind_float_numeric {x : Binary64} {d : Decimal} (h : Decimal.ofBinary64? x = some d)
    (message : List UInt8) : bind (.float x) (.builtin "numeric") message =
      (message ++ (Numeric.ofDecimal d).bytes, .ok false) := by
  have hdecimal : decimal x = .ok d := by rw [decimal, h]
  show ((liftM (decimal x) >>= fun d => Writing.put (Numeric.ofDecimal d).bytes) >>=
    fun _ => pure false : Writing BindError Bool).onto message = _
  rw [hdecimal]
  rfl

/-- The bytes that stand for a value in a type. -/
inductive Encodes : Value → ParameterType → List UInt8 → Prop
  | null (type : ParameterType) : Encodes .null type []
  | bool (b : Bool) : Encodes (.bool b) (.builtin "bool") [if b then 1 else 0]
  | intBool (n : Int64) : Encodes (.int n) (.builtin "bool") [if n = 0 then 0 else 1]
  | int2 (n : Int64) : Encodes (.int n) (.builtin "int2") (signed 2 n.toInt)
  | int4 (n : Int64) : Encodes (.int n) (.builtin "int4") (signed 4 n.toInt)
  | int8 (n : Int64) : Encodes (.int n) (.builtin "int8") (signed 8 n.toInt)
  | intFloat4 (n : Int64) :
      Encodes (.int n) (.builtin "float4") (bigEndian 4 (Binary32.ofInt n.toInt).bits.toNat)
  | intFloat8 (n : Int64) :
      Encodes (.int n) (.builtin "float8") (bigEndian 8 (Binary64.ofInt n.toInt).bits.toNat)
  | intNumeric (n : Int64) :
      Encodes (.int n) (.builtin "numeric") (Numeric.ofDecimal (.ofInt n.toInt)).bytes
  | intText {type : ParameterType} (h : type.IsTextual) (n : Int64) :
      Encodes (.int n) type (type.lead ++ utf8 n.toInt.repr)
  | float4 (x : Binary64) :
      Encodes (.float x) (.builtin "float4") (bigEndian 4 (Binary32.ofBinary64 x).bits.toNat)
  | float8 (x : Binary64) : Encodes (.float x) (.builtin "float8") (bigEndian 8 x.bits.toNat)
  | floatNumeric {x : Binary64} {d : Decimal} (h : Decimal.ofBinary64? x = some d) :
      Encodes (.float x) (.builtin "numeric") (Numeric.ofDecimal d).bytes
  | floatText {type : ParameterType} (h : type.IsTextual) (x : Binary64) :
      Encodes (.float x) type (type.lead ++ utf8 x.text)
  | text {type : ParameterType} (h : type.IsTextual) (s : String) :
      Encodes (.text s) type (type.lead ++ utf8 s)
  | bytes (bs : List UInt8) : Encodes (.bytes bs) (.builtin "bytea") bs

theorem exists_encodes {v : Value} {type : ParameterType} (hpairs : Pairs v type)
    (hconverts : Converts v type) :
    ∃ bytes, Encodes v type bytes ∧ ∀ message, (bind v type message).1 = message ++ bytes := by
  cases v with
  | null => exact ⟨[], .null type, fun message => (List.append_nil message).symm⟩
  | bool b =>
    obtain rfl : type = .builtin "bool" := hpairs
    exact ⟨_, .bool b, fun message => rfl⟩
  | int n =>
    rcases hpairs with hmem | htext
    · simp only [integerTypes, List.mem_cons, List.not_mem_nil, or_false] at hmem
      rcases hmem with rfl | rfl | rfl | rfl | rfl | rfl | rfl
      · exact ⟨_, .int2 n, fun message => by rw [bind_of_fits 2 rfl (hconverts.1 rfl)]⟩
      · exact ⟨_, .int4 n, fun message => by rw [bind_of_fits 4 rfl (hconverts.2 rfl)]⟩
      · exact ⟨_, .int8 n, fun message => rfl⟩
      · exact ⟨_, .intFloat4 n, fun message => rfl⟩
      · exact ⟨_, .intFloat8 n, fun message => rfl⟩
      · exact ⟨_, .intNumeric n, fun message => rfl⟩
      · refine ⟨_, .intBool n, fun message => ?_⟩
        show message ++ boolBytes (n != 0) = _
        by_cases hzero : n = 0 <;> simp [boolBytes, hzero]
    · exact ⟨_, .intText htext n, fun message => by rw [bind_int_text htext]⟩
  | float x =>
    rcases hpairs with hmem | htext
    · simp only [floatTypes, List.mem_cons, List.not_mem_nil, or_false] at hmem
      rcases hmem with rfl | rfl | rfl
      · exact ⟨_, .float4 x, fun message => rfl⟩
      · exact ⟨_, .float8 x, fun message => rfl⟩
      · obtain ⟨d, hd⟩ := Option.isSome_iff_exists.mp (hconverts rfl)
        exact ⟨_, .floatNumeric hd, fun message => by rw [bind_float_numeric hd]⟩
    · exact ⟨_, .floatText htext x, fun message => by rw [bind_float_text htext]⟩
  | text s => exact ⟨_, .text hpairs s, fun message => by rw [bind_text hpairs]⟩
  | bytes bs =>
    obtain rfl : type = .builtin "bytea" := hpairs
    exact ⟨_, .bytes bs, fun message => rfl⟩

/-- Binding a value succeeds just for the types that the value is paired with and has a counterpart
in. It then puts the bytes that stand for the value behind the message, whatever that is; else it
leaves the message as it was, and for a type of another kind the error names both. -/
theorem bind_appends_or_keeps (v : Value) (type : ParameterType) :
    (∀ message, (∃ null, (bind v type message).2 = .ok null) ↔ Pairs v type ∧ Converts v type) ∧
    (∃ bytes, (v = .null → bytes = []) ∧
      (Pairs v type → Converts v type → Encodes v type bytes) ∧
      ∀ message null, (bind v type message).2 = .ok null →
        (bind v type message).1 = message ++ bytes ∧ null = v.isNull) ∧
    ∀ message e, (bind v type message).2 = .error e →
      (bind v type message).1 = message ∧
      (¬Pairs v type → ∃ kind, kind? v = some kind ∧ e = .wrongType kind type) ∧
      (Pairs v type → e ∈ [.tooSmall, .tooLarge, .noDecimal]) := by
  obtain ⟨bytes, answer, hbind, hfailed⟩ := framed_write v type
  have hbind' (message : List UInt8) : bind v type message = (message ++ bytes, answer) :=
    hbind message
  refine ⟨exists_ok_iff, ⟨bytes, ?_, fun hpairs hconverts => ?_, fun message null h => ?_⟩,
    fun message e h => ?_⟩
  · rintro rfl
    exact (congrArg Prod.fst (hbind [])).symm
  · obtain ⟨encoded, hencodes, hwritten⟩ := exists_encodes hpairs hconverts
    have hsame : bytes = encoded := by
      rw [← List.nil_append bytes, ← List.nil_append encoded, ← hwritten, hbind']
    exact hsame ▸ hencodes
  · have hanswers := answers_bind v type message
    rw [h] at hanswers
    refine ⟨by rw [hbind'], ?_⟩
    cases hanswers with
    | written _ _ => rfl
  · have hanswers := answers_bind v type message
    rw [h] at hanswers
    have hnil : bytes = [] := hfailed e (by rw [← h, hbind'])
    refine ⟨by rw [hbind', hnil, List.append_nil], ?_⟩
    cases hanswers with
    | wrongType hkind hpairs => exact ⟨fun _ => ⟨_, hkind, rfl⟩, fun h => absurd h hpairs⟩
    | unconvertible hpairs _ he => exact ⟨fun h => absurd hpairs h, fun _ => he⟩

end Wire
end RowBatch
