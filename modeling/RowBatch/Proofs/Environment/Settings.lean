import RowBatch.Environment.File
import RowBatch.Proofs.Manifest.Environment

/-!
What a file of settings can change. A variable that has a text for its value keeps it whatever the
file holds, and so does all that depends on such variables only. Another variable gets the first
value that the file has for it before its first malformed line. Which lines are malformed, and which
variable each of the others sets, is fixed by the file alone; the environment shows in the values.
Only a value that the system can not keep makes the file do harm: the process ends then.
-/

namespace RowBatch
namespace Environment

section Lookup

variable {env env' env'' : Environment} {name value : String}

theorem get?_eq_some_iff : env.get? name = some value ↔ env.find name = .ok value := by
  rw [get?]
  cases env.find name <;> simp [Except.toOption]

theorem get?_eq_none_iff : env.get? name = none ↔ ∃ cause, env.find name = .error cause := by
  rw [get?]
  cases env.find name <;> simp [Except.toOption]

/-- Every variable that has a text for its value keeps it. -/
def Keeps (env env' : Environment) : Prop :=
  ∀ name value, env.find name = .ok value → env'.find name = .ok value

theorem Keeps.refl (env : Environment) : Keeps env env := fun _ _ h => h

theorem Keeps.trans (h : Keeps env env') (h' : Keeps env' env'') : Keeps env env'' :=
  fun name value hvalue => h' name value (h name value hvalue)

theorem find_define (h : env.define name value = .ok env') (other : String) :
    env'.find other =
      if other = name ∧ env.get? name = none then .ok value else env.find other := by
  unfold define at h
  split at h
  · rename_i hset
    obtain rfl := Except.ok.inj h
    rw [if_neg fun hother => Option.isSome_iff_ne_none.mp hset hother.2]
  · rename_i hunset
    unfold set at h
    split at h
    · obtain rfl := Except.ok.inj h
      by_cases hother : other = name
      · subst hother
        rw [if_pos ⟨rfl, Option.not_isSome_iff_eq_none.mp hunset⟩, find, List.lookup_cons_self]
      · rw [if_neg fun h => hother h.1, find, find, List.lookup_cons,
          beq_eq_false_iff_ne.mpr hother]
    · cases h

theorem keeps_define (h : env.define name value = .ok env') : Keeps env env' := by
  intro other old hold
  rw [find_define h, if_neg, hold]
  rintro ⟨rfl, hunset⟩
  exact nomatch hunset.symm.trans (get?_eq_some_iff.mpr hold)

theorem get?_define_eq_none_iff (h : env.define name value = .ok env') (other : String) :
    env'.get? other = none ↔ other ≠ name ∧ env.get? other = none := by
  rw [get?, find_define h]
  by_cases hother : other = name
  · subst hother
    by_cases hunset : env.get? other = none
    · simp [hunset, Except.toOption]
    · rw [if_neg fun h => hunset h.2]
      simpa [get?] using hunset
  · rw [if_neg fun h => hother h.1]
    simp [get?, hother]

theorem define_eq_error_iff : (∃ panic, env.define name value = .error panic) ↔
    env.get? name = none ∧ ¬IsSettable name value := by
  unfold define set
  by_cases hset : (env.get? name).isSome = true
  · simp [hset, Option.isSome_iff_ne_none.mp hset]
  · have hunset := Option.not_isSome_iff_eq_none.mp hset
    by_cases hsettable : IsSettable name value <;> simp [hunset, hsettable]

end Lookup

/-- Whether a value can be read does not depend on the variables that are put in. -/
theorem isSome_readValue (env env' : Environment) (state : ValueState) (cs : List Char) :
    (readValue env state cs).isSome = (readValue env' state cs).isSome := by
  induction cs generalizing state with
  | nil => cases state with
    | escape quoted | name quoted => cases quoted <;> rfl
    | _ => rfl
  | cons c rest ih =>
    -- the states that follow are those that the character leads to; a variable only adds characters
    cases state <;> simp only [readValue, apply_ite Option.isSome, Option.isSome_map, ih]

namespace Line

/-- What a line does, but for the value. -/
def withoutValue : Line → Line
  | .define name _ => .define name ""
  | line => line

theorem withoutValue_eq_malformed_iff {l : Line} :
    l.withoutValue = .malformed ↔ l = .malformed := by
  cases l <;> simp [withoutValue]

theorem withoutValue_eq_define_iff {l : Line} {name : String} :
    l.withoutValue = .define name "" ↔ ∃ value, l = .define name value := by
  cases l <;> simp [withoutValue]

section Read

variable (env env' : Environment)

theorem withoutValue_readSetting (name cs : List Char) :
    (readSetting env name cs).withoutValue = (readSetting env' name cs).withoutValue := by
  have hread := isSome_readValue env env' .plain (cs.dropWhile Text.isWhiteSpace)
  unfold readSetting
  dsimp only
  split
  · rfl
  · cases hvalue : readValue env .plain (cs.dropWhile Text.isWhiteSpace) with
    | none =>
      have hvalue' : readValue env' .plain (cs.dropWhile Text.isWhiteSpace) = none := by
        simpa [hvalue] using hread.symm
      rw [hvalue']
    | some value =>
      rw [hvalue, Option.isSome_some] at hread
      obtain ⟨value', hvalue'⟩ := Option.isSome_iff_exists.mp hread.symm
      rw [hvalue']
      rfl

theorem withoutValue_read (line : List Char) :
    (read env line).withoutValue = (read env' line).withoutValue := by
  unfold read
  dsimp only
  split
  · rfl
  · split
    · rfl
    · exact withoutValue_readSetting env env' _ _
    · split
      · split
        · exact withoutValue_readSetting env env' _ _
        · rfl
      · rfl

theorem withoutValue_ofBytes (line : List UInt8) :
    (ofBytes env line).withoutValue = (ofBytes env' line).withoutValue := by
  unfold ofBytes
  split
  · exact withoutValue_read env env' _
  · rfl

end Read

section Names

variable {env : Environment} {name value : String}

theorem isNameChar_of_readName {cs chars rest : List Char} (h : readName cs = some (chars, rest)) :
    chars ≠ [] ∧ ∀ c ∈ chars, isNameChar c = true := by
  cases cs with
  | nil => exact nomatch h
  | cons c cs =>
    simp only [readName, Option.ite_none_right_eq_some, Option.some.injEq, Prod.mk.injEq] at h
    obtain ⟨hstart, rfl, -⟩ := h
    have hc : isNameChar c = true := by
      rcases Bool.or_eq_true_iff.mp hstart with hletter | hline
      · simp [isNameChar, Char.isAlphanum, hletter]
      · simp [isNameChar, hline]
    exact ⟨by simp [hc], fun d hd => List.all_eq_true.mp List.all_takeWhile d hd⟩

theorem isSettable_iff_of_isNameChar {chars : List Char} (hne : chars ≠ [])
    (hchars : ∀ c ∈ chars, isNameChar c = true) :
    IsSettable (String.ofList chars) value ↔ '\x00' ∉ value.toList := by
  have hequals : '=' ∉ chars := fun hmem => absurd (hchars _ hmem) (by decide)
  have hnul : '\x00' ∉ chars := fun hmem => absurd (hchars _ hmem) (by decide)
  have hempty : String.ofList chars ≠ "" := by simpa using hne
  simp [IsSettable, hempty, hequals, hnul]

theorem name_of_readSetting {chars cs : List Char}
    (h : readSetting env chars cs = .define name value) : name = String.ofList chars := by
  unfold readSetting at h
  dsimp only at h
  split at h
  · exact (Line.define.inj h).1.symm
  · split at h
    · exact (Line.define.inj h).1.symm
    · exact nomatch h

theorem exists_name_of_read {line : List Char} (h : read env line = .define name value) :
    ∃ chars cs rest, readName cs = some (chars, rest) ∧ name = String.ofList chars := by
  unfold read at h
  dsimp only at h
  split at h
  · exact nomatch h
  · split at h
    · exact nomatch h
    · rename_i hname
      exact ⟨_, _, _, hname, name_of_readSetting h⟩
    · split at h
      · split at h
        · rename_i hname
          exact ⟨_, _, _, hname, name_of_readSetting h⟩
        · exact nomatch h
      · exact nomatch h

theorem isSettable_iff_of_ofBytes {line : List UInt8} (h : ofBytes env line = .define name value) :
    IsSettable name value ↔ '\x00' ∉ value.toList := by
  unfold ofBytes at h
  split at h
  · obtain ⟨chars, _, _, hname, rfl⟩ := exists_name_of_read h
    obtain ⟨hne, hchars⟩ := isNameChar_of_readName hname
    exact isSettable_iff_of_isNameChar hne hchars
  · exact nomatch h

end Names

/-- The line is malformed, whatever is set. -/
def Malformed (line : List UInt8) : Prop := ∀ env, ofBytes env line = .malformed

/-- The line is a setting of the variable, whatever is set. -/
def Sets (line : List UInt8) (name : String) : Prop :=
  ∀ env, ∃ value, ofBytes env line = .define name value

variable {line : List UInt8} {name : String}

theorem malformed_iff (env : Environment) : Malformed line ↔ ofBytes env line = .malformed := by
  refine ⟨fun h => h env, fun h env' => ?_⟩
  rw [← withoutValue_eq_malformed_iff, withoutValue_ofBytes env' env,
    withoutValue_eq_malformed_iff, h]

theorem sets_iff (env : Environment) :
    Sets line name ↔ ∃ value, ofBytes env line = .define name value := by
  refine ⟨fun h => h env, fun h env' => ?_⟩
  rw [← withoutValue_eq_define_iff, withoutValue_ofBytes env' env, withoutValue_eq_define_iff]
  exact h

instance : DecidablePred Malformed := fun _ => decidable_of_iff _ (malformed_iff []).symm

instance (line : List UInt8) (name : String) : Decidable (Sets line name) :=
  decidable_of_iff _ (withoutValue_eq_define_iff.trans (sets_iff []).symm)

end Line

/-- The lines before the first that is malformed. -/
def usable (lines : List (List UInt8)) : List (List UInt8) :=
  lines.takeWhile fun line => ¬Line.Malformed line

def usableLines : Option ByteArray → List (List UInt8)
  | none => []
  | some bytes => usable (bytes.data.toList.splitOn 10)

/-- The first setting of a variable in some lines has the value. It is read with what the lines
before it set. -/
def FirstGives (env : Environment) (lines : List (List UInt8)) (name value : String) : Prop :=
  ∃ earlier line later env', lines = earlier ++ line :: later ∧
    (∀ other ∈ earlier, ¬Line.Sets other name) ∧ applyLines env earlier = .ok env' ∧
    Line.ofBytes env' line = .define name value

/-- Each variable that has no text yet gets a value first that the system can keep. -/
def Harmless (env : Environment) (lines : List (List UInt8)) : Prop :=
  ∀ name value, env.get? name = none → FirstGives env lines name value → '\x00' ∉ value.toList

section Lines

variable {env env' : Environment} {lines earlier : List (List UInt8)} {name value : String}

theorem keeps_applyLines (h : applyLines env lines = .ok env') : Keeps env env' := by
  fun_induction applyLines env lines with
  | case1 env => exact Except.ok.inj h ▸ .refl env
  | case2 env line rest hread ih => exact ih h
  | case3 env line rest name value hread env₁ hdefine ih =>
    exact (keeps_define hdefine).trans (ih h)
  | case4 => exact nomatch h
  | case5 env line rest hread => exact Except.ok.inj h ▸ .refl env

theorem applyLines_append (h : ∀ line ∈ earlier, ¬Line.Malformed line) (env : Environment)
    (later : List (List UInt8)) : applyLines env (earlier ++ later) =
      (applyLines env earlier).bind fun env => applyLines env later := by
  induction earlier generalizing env with
  | nil => rfl
  | cons line earlier ih =>
    have hline := (Line.malformed_iff env).not.mp (h line List.mem_cons_self)
    have ih := ih fun other hother => h other (List.mem_cons_of_mem line hother)
    cases hread : Line.ofBytes env line with
    | nothing => simp only [List.cons_append, applyLines, hread, ih]
    | define name value =>
      simp only [List.cons_append, applyLines, hread]
      cases env.define name value with
      | ok env₁ => exact ih env₁
      | error panic => rfl
    | malformed => exact absurd hread hline

theorem not_malformed_of_mem_usable : ∀ line ∈ usable lines, ¬Line.Malformed line :=
  fun line hline => of_decide_eq_true (List.all_eq_true.mp List.all_takeWhile line hline)

/-- What comes from the first malformed line on does not count. -/
theorem applyLines_usable (env : Environment) (lines : List (List UInt8)) :
    applyLines env (usable lines) = applyLines env lines := by
  have hsplit : usable lines ++ lines.dropWhile (fun line => ¬Line.Malformed line) = lines :=
    List.takeWhile_append_dropWhile
  have hrest (env : Environment) :
      applyLines env (lines.dropWhile fun line => ¬Line.Malformed line) = .ok env := by
    cases hdropped : lines.dropWhile (fun line => ¬Line.Malformed line) with
    | nil => rfl
    | cons line rest =>
      have hline : Line.Malformed line := by
        have hhead := List.head?_dropWhile_not (fun line => decide ¬Line.Malformed line) lines
        rw [hdropped] at hhead
        simpa using hhead
      rw [applyLines, hline]
  conv_rhs => rw [← hsplit]
  rw [applyLines_append not_malformed_of_mem_usable]
  cases applyLines env (usable lines) with
  | ok env' => exact (hrest env').symm
  | error panic => rfl

theorem find_applyLines_of_not_sets (h : applyLines env lines = .ok env')
    (hlines : ∀ line ∈ lines, ¬Line.Sets line name) : env'.find name = env.find name := by
  fun_induction applyLines env lines with
  | case1 env => exact Except.ok.inj h ▸ rfl
  | case2 env line rest hread ih =>
    exact ih h fun other hother => hlines other (List.mem_cons_of_mem line hother)
  | case3 env line rest other value hread env₁ hdefine ih =>
    have hother : name ≠ other := by
      rintro rfl
      exact hlines line List.mem_cons_self ((Line.sets_iff env).mpr ⟨value, hread⟩)
    rw [ih h fun other hother => hlines other (List.mem_cons_of_mem line hother),
      find_define hdefine, if_neg fun h => hother h.1]
  | case4 => exact nomatch h
  | case5 env line rest hread => exact Except.ok.inj h ▸ rfl

theorem get?_of_not_sets (happlied : applyLines env lines = .ok env')
    (hlines : ∀ line ∈ lines, ¬Line.Sets line name) (hunset : env.get? name = none) :
    env'.get? name = none := by
  rw [get?, find_applyLines_of_not_sets happlied hlines]
  exact hunset

/-- The lines go on from the first setting of a variable as they do from its definition. -/
theorem FirstGives.applyLines_eq (hfirst : FirstGives env lines name value)
    (hlines : ∀ line ∈ lines, ¬Line.Malformed line) (hunset : env.get? name = none) :
    ∃ line later env', Line.ofBytes env' line = .define name value ∧ env'.get? name = none ∧
      applyLines env lines = (env'.define name value).bind fun env => applyLines env later := by
  obtain ⟨earlier, line, later, env', rfl, hearlier, happlied, hread⟩ := hfirst
  refine ⟨line, later, env', hread, get?_of_not_sets happlied hearlier hunset, ?_⟩
  rw [applyLines_append fun other hother => hlines other (List.mem_append_left _ hother), happlied]
  show applyLines env' (line :: later) = _
  rw [applyLines, hread]
  dsimp only
  cases env'.define name value <;> rfl

theorem find_applyLines_of_firstGives (h : applyLines env lines = .ok env')
    (hlines : ∀ line ∈ lines, ¬Line.Malformed line) (hunset : env.get? name = none)
    (hfirst : FirstGives env lines name value) : env'.find name = .ok value := by
  obtain ⟨line, later, env₁, -, hunset₁, happlied⟩ := hfirst.applyLines_eq hlines hunset
  rw [happlied] at h
  cases hdefine : env₁.define name value with
  | error panic =>
    rw [hdefine] at h
    exact nomatch h
  | ok env₂ =>
    rw [hdefine] at h
    apply keeps_applyLines h
    rw [find_define hdefine, if_pos ⟨rfl, hunset₁⟩]

theorem exists_firstGives (h : applyLines env lines = .ok env')
    (hlines : ∀ line ∈ lines, ¬Line.Malformed line) (hsets : ∃ line ∈ lines, Line.Sets line name) :
    ∃ value, FirstGives env lines name value := by
  have hfound : (lines.find? fun line => Line.Sets line name).isSome := by
    simpa using hsets
  obtain ⟨line, hfind⟩ := Option.isSome_iff_exists.mp hfound
  obtain ⟨hline, earlier, later, rfl, hearlier⟩ := List.find?_eq_some_iff_append.mp hfind
  rw [applyLines_append fun other hother => hlines other (List.mem_append_left _ hother)] at h
  cases happlied : applyLines env earlier with
  | error panic =>
    rw [happlied] at h
    exact nomatch h
  | ok env₁ =>
    obtain ⟨value, hvalue⟩ := of_decide_eq_true hline env₁
    exact ⟨value, earlier, line, later, env₁, rfl, by simpa using hearlier, happlied, hvalue⟩

theorem FirstGives.cons {line : List UInt8} {env₁ : Environment}
    (hfirst : FirstGives env₁ lines name value) (hline : ¬Line.Sets line name)
    (happlied : ∀ rest, applyLines env (line :: rest) = applyLines env₁ rest) :
    FirstGives env (line :: lines) name value := by
  obtain ⟨earlier, first, later, env', rfl, hearlier, happlied', hread⟩ := hfirst
  refine ⟨line :: earlier, first, later, env', rfl, List.forall_mem_cons.mpr ⟨hline, hearlier⟩, ?_,
    hread⟩
  rw [happlied]
  exact happlied'

theorem exists_unsettable (hlines : ∀ line ∈ lines, ¬Line.Malformed line)
    (h : ∃ panic, applyLines env lines = .error panic) : ∃ name value,
      env.get? name = none ∧ FirstGives env lines name value ∧ '\x00' ∈ value.toList := by
  induction lines generalizing env with
  | nil => exact nomatch h.choose_spec
  | cons line rest ih =>
    obtain ⟨hline, hrest⟩ := List.forall_mem_cons.mp hlines
    -- a line that does not end the process leaves its environment to the lines behind it
    have hnext (env₁ : Environment)
        (happlied : ∀ rest, applyLines env (line :: rest) = applyLines env₁ rest)
        (hunset : ∀ name, env₁.get? name = none → env.get? name = none ∧ ¬Line.Sets line name) :
        ∃ name value, env.get? name = none ∧ FirstGives env (line :: rest) name value ∧
          '\x00' ∈ value.toList := by
      rw [happlied] at h
      obtain ⟨name, value, hunset₁, hfirst, hnul⟩ := ih hrest h
      obtain ⟨hunset, hsets⟩ := hunset name hunset₁
      exact ⟨name, value, hunset, hfirst.cons hsets happlied, hnul⟩
    cases hread : Line.ofBytes env line with
    | malformed => exact absurd hread ((Line.malformed_iff env).not.mp hline)
    | nothing =>
      refine hnext env (fun rest => by rw [applyLines, hread]) fun name hunset => ⟨hunset, ?_⟩
      intro hsets
      obtain ⟨value, hvalue⟩ := hsets env
      exact nomatch hread.symm.trans hvalue
    | define name value =>
      cases hdefine : env.define name value with
      | error panic =>
        obtain ⟨hunset, hsettable⟩ := define_eq_error_iff.mp ⟨panic, hdefine⟩
        rw [Line.isSettable_iff_of_ofBytes hread, not_not] at hsettable
        exact ⟨name, value, hunset, ⟨[], line, rest, env, rfl, by simp, rfl, hread⟩, hsettable⟩
      | ok env₁ =>
        have happlied (rest) : applyLines env (line :: rest) = applyLines env₁ rest := by
          rw [applyLines, hread]
          simp only [hdefine]
        refine hnext env₁ happlied fun other hunset₁ => ?_
        obtain ⟨hother, hunset⟩ := (get?_define_eq_none_iff hdefine other).mp hunset₁
        refine ⟨hunset, fun hsets => ?_⟩
        obtain ⟨value, hvalue⟩ := hsets env
        exact hother (Line.define.inj (hvalue.symm.trans hread)).1

/-- The lines end the process just when they first give a variable without a text a value that the
system can not keep. -/
theorem applyLines_eq_error_iff (hlines : ∀ line ∈ lines, ¬Line.Malformed line) :
    (∃ panic, applyLines env lines = .error panic) ↔ ¬Harmless env lines := by
  simp only [Harmless, not_forall, not_not, exists_prop]
  refine ⟨exists_unsettable hlines, ?_⟩
  rintro ⟨name, value, hunset, hfirst, hnul⟩
  obtain ⟨line, later, env', hread, hunset', happlied⟩ := hfirst.applyLines_eq hlines hunset
  obtain ⟨panic, hpanic⟩ := define_eq_error_iff.mpr
    ⟨hunset', fun h => (Line.isSettable_iff_of_ofBytes hread).mp h hnul⟩
  rw [happlied, hpanic]
  exact ⟨panic, rfl⟩

end Lines

section File

variable {env env' : Environment} {settings : Option ByteArray} {names : List String}

theorem load_eq_applyLines (env : Environment) (settings : Option ByteArray) :
    env.load settings = applyLines env (usableLines settings) := by
  cases settings with
  | none => rfl
  | some bytes => exact (applyLines_usable env _).symm

theorem not_malformed_of_mem_usableLines :
    ∀ line ∈ usableLines settings, ¬Line.Malformed line := by
  cases settings with
  | none => exact fun line hline => absurd hline List.not_mem_nil
  | some bytes => exact not_malformed_of_mem_usable

theorem load_eq_error_iff :
    (∃ panic, env.load settings = .error panic) ↔ ¬Harmless env (usableLines settings) := by
  rw [load_eq_applyLines]
  exact applyLines_eq_error_iff not_malformed_of_mem_usableLines

theorem map_load_eq_error_iff {α : Type} {f : Environment → α} :
    (∃ panic, (env.load settings).map f = .error panic) ↔ ¬Harmless env (usableLines settings) := by
  rw [← load_eq_error_iff]
  cases env.load settings <;> simp [Except.map]

theorem exists_load_eq_ok (h : Harmless env (usableLines settings)) :
    ∃ env', env.load settings = .ok env' := by
  cases hload : env.load settings with
  | ok env' => exact ⟨env', rfl⟩
  | error panic => exact absurd h (load_eq_error_iff.mp ⟨panic, hload⟩)

theorem keeps_load (h : env.load settings = .ok env') : Keeps env env' :=
  keeps_applyLines (load_eq_applyLines env settings ▸ h)

theorem agreeOn_load (h : env.load settings = .ok env')
    (hset : ∀ name ∈ names, (env.get? name).isSome) : AgreeOn names env' env := by
  intro name hname
  obtain ⟨value, hvalue⟩ := Option.isSome_iff_exists.mp (hset name hname)
  rw [hvalue, get?_eq_some_iff]
  exact keeps_load h name value (get?_eq_some_iff.mp hvalue)

theorem connections_of_load (h : env.load settings = .ok env') :
    env.serverConnection settings = .ok (env'.find databaseVariable) ∧
      env.fileConnection settings =
        .ok ((env'.get? databaseVariable).getD defaultDatabasePath) := by
  rw [serverConnection, fileConnection, h]
  exact ⟨rfl, rfl⟩

theorem connections_of_find {url : String} (h : env.load settings = .ok env')
    (hurl : env'.find databaseVariable = .ok url) :
    env.serverConnection settings = .ok (.ok url) ∧ env.fileConnection settings = .ok url := by
  obtain ⟨hserver, hfile⟩ := connections_of_load h
  rw [hserver, hfile, hurl, get?_eq_some_iff.mpr hurl]
  exact ⟨rfl, rfl⟩

end File

def partialSettings : ByteArray :=
  ("# data\nexport PLACE=/srv\nDATABASE_URL=\"$PLACE/a.db\"\n" ++
    "DATABASE_URL=b.db\nnone\nTABLE=other").toUTF8

def tableSet : Environment := [("TABLE", .text "ledger")]

theorem usableLines_partialSettings : usableLines (some partialSettings) =
    ["# data".toUTF8.data.toList, "export PLACE=/srv".toUTF8.data.toList] ++
      "DATABASE_URL=\"$PLACE/a.db\"".toUTF8.data.toList ::
        ["DATABASE_URL=b.db".toUTF8.data.toList] := by
  decide

theorem references_tableLine : references "table: $\x7bTABLE\x7d" = ["TABLE"] := by
  have htext : "table: $\x7bTABLE\x7d".toList = "table: ".toList ++ "$\x7bTABLE\x7d".toList := rfl
  have hreference : Piece.ofText "$\x7bTABLE\x7d".toList =
      .reference "TABLE".toList :: Piece.ofText [] := Piece.ofText_reference rfl
  rw [references, htext, Piece.ofText_append (by decide), hreference, List.filterMap_append,
    Piece.filterMap_name?_char, Piece.ofText]
  rfl

end Environment
end RowBatch
