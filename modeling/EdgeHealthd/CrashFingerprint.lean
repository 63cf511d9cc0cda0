import EdgeHealthd.CrashClocks
import EdgeHealthd.Library.Framing

/-!
The bytes behind a crash fingerprint. The lines are hashed one behind the other
without a terminator; the name of the next panic file is the only boundary, and it
is enough to read the files back.
-/

namespace EdgeHealthd

open Decimal (utf8Bytes utf8Bytes_append repr_injective)

/-- What a line of the hash is written from. -/
def CrashArtifact.identity (artifact : CrashArtifact) : String × UInt64 × Option Int :=
  (artifact.name, artifact.sizeBytes, artifact.mtime.map (·.tdiv 1000000000))

/-- A panic file whose name has no colon. -/
structure CrashArtifact.IsPlain (artifact : CrashArtifact) : Prop where
  panic : isPanicArtifactName artifact.name = true
  noColon : ':' ∉ artifact.name.toList

def secondsText : Option Int → List Char
  | some count => (toString count).toList
  | none => []

theorem fingerprintLine_toList (artifact : CrashArtifact) :
    (fingerprintLine artifact).toList =
      artifact.name.toList ++ ':' :: ((Nat.repr artifact.sizeBytes.toNat).toList ++
        ':' :: secondsText artifact.identity.2.2) := by
  have size : toString artifact.sizeBytes.toNat = Nat.repr artifact.sizeBytes.toNat := rfl
  unfold fingerprintLine CrashArtifact.identity
  cases artifact.mtime with
  | none => simp [size, secondsText]
  | some mtime => simp [size, secondsText]

theorem utf8Bytes_injective : Function.Injective utf8Bytes := by
  intro first second same
  have arrays : first.toUTF8.data = second.toUTF8.data := Array.toList_inj.mp same
  exact String.toByteArray_inj.mp (ByteArray.ext arrays)

theorem fingerprintInput_eq (artifacts : List CrashArtifact) :
    fingerprintInput artifacts =
      utf8Bytes (String.ofList (artifacts.flatMap fun artifact =>
        (fingerprintLine artifact).toList)) := by
  induction artifacts with
  | nil => rfl
  | cons artifact rest ih =>
      rw [fingerprintInput_cons, ih, List.flatMap_cons, String.ofList_append, utf8Bytes_append,
        String.ofList_toList]

section Texts

theorem isDigit_of_mem_repr {number : Nat} {char : Char}
    (member : char ∈ (Nat.repr number).toList) : char.isDigit = true := by
  rw [Nat.toList_repr] at member
  exact Nat.isDigit_of_mem_toDigits (by decide) (by decide) member

theorem toString_negSucc (number : Nat) :
    (toString (Int.negSucc number)).toList = '-' :: (Nat.repr (number + 1)).toList := by
  show ("-" ++ Nat.repr (number + 1)).toList = _
  rw [String.toList_append]
  rfl

theorem mem_secondsText {seconds : Option Int} {char : Char}
    (member : char ∈ secondsText seconds) : char = '-' ∨ char.isDigit = true := by
  match seconds with
  | none => cases member
  | some (Int.ofNat number) => exact Or.inr (isDigit_of_mem_repr member)
  | some (Int.negSucc number) =>
      rw [secondsText, toString_negSucc] at member
      rcases List.mem_cons.mp member with sign | digit
      · exact Or.inl sign
      · exact Or.inr (isDigit_of_mem_repr digit)

theorem repr_toList_ne_nil (number : Nat) : (Nat.repr number).toList ≠ [] := by
  rw [Nat.toList_repr]
  exact Nat.toDigits_ne_nil

theorem toString_int_injective {first second : Int}
    (same : (toString first).toList = (toString second).toList) : first = second := by
  have sign : ∀ natural number : Nat,
      (Nat.repr natural).toList ≠ '-' :: (Nat.repr (number + 1)).toList := by
    intro natural number equal
    have digit : '-'.isDigit = true := isDigit_of_mem_repr (equal ▸ List.mem_cons_self)
    exact absurd digit (by decide)
  match first, second with
  | Int.ofNat left, Int.ofNat right =>
      exact congrArg Int.ofNat (repr_injective (String.toList_inj.mp same))
  | Int.ofNat left, Int.negSucc right =>
      rw [toString_negSucc] at same
      exact absurd same (sign left right)
  | Int.negSucc left, Int.ofNat right =>
      rw [toString_negSucc] at same
      exact absurd same.symm (sign right left)
  | Int.negSucc left, Int.negSucc right =>
      rw [toString_negSucc, toString_negSucc, List.cons.injEq] at same
      have equal := repr_injective (String.toList_inj.mp same.2)
      exact congrArg Int.negSucc (Nat.succ_injective equal)

theorem toString_int_ne_nil (number : Int) : (toString number).toList ≠ [] := by
  match number with
  | Int.ofNat number => exact repr_toList_ne_nil number
  | Int.negSucc number =>
      rw [toString_negSucc]
      exact List.cons_ne_nil _ _

theorem secondsText_injective : Function.Injective secondsText := by
  intro first second same
  match first, second with
  | none, none => rfl
  | none, some count => exact absurd same.symm (toString_int_ne_nil count)
  | some count, none => exact absurd same (toString_int_ne_nil count)
  | some first, some second => exact congrArg some (toString_int_injective same)

end Texts

theorem panicName_head {name : String} (panic : isPanicArtifactName name = true) :
    name.toList.head? = some 'd' := by
  rw [isPanicArtifactName, Bool.or_eq_true, List.isPrefixOf_iff_prefix,
    List.isPrefixOf_iff_prefix] at panic
  rcases panic with ⟨rest, whole⟩ | ⟨rest, whole⟩
  · rw [← whole]
    rfl
  · rw [← whole]
    rfl

/-- The name ends at its colon, the size at the next one, and the time at the first letter
of the next name. -/
theorem fingerprintLine_framed :
    Framing.Framed (fun artifact => (fingerprintLine artifact).toList) CrashArtifact.identity
      CrashArtifact.IsPlain (· = 'd') where
  starts artifact plain := by
    refine ⟨'d', ?_, rfl⟩
    rw [fingerprintLine_toList, List.head?_append, panicName_head plain.panic]
    rfl
  reads first second rest other plain otherPlain starts otherStarts same := by
    have colonEnds : ∀ after : List Char, ∀ char ∈ (':' :: after).head?, (char != ':') = false := by
      rintro after char ⟨⟩
      rfl
    have sizeInside : ∀ number, ∀ char ∈ (Nat.repr number).toList, (char != ':') = true := by
      intro number char member
      rw [bne_iff_ne]
      rintro rfl
      exact absurd (isDigit_of_mem_repr member) (by decide)
    have nameInside : ∀ artifact : CrashArtifact, artifact.IsPlain →
        ∀ char ∈ artifact.name.toList, (char != ':') = true := by
      intro artifact isPlain char member
      rw [bne_iff_ne]
      rintro rfl
      exact isPlain.noColon member
    have timeInside : ∀ seconds, ∀ char ∈ secondsText seconds, (char != 'd') = true := by
      intro seconds char member
      rw [bne_iff_ne]
      rintro rfl
      rcases mem_secondsText member with sign | digit
      · exact absurd sign (by decide)
      · exact absurd digit (by decide)
    have nextEnds : ∀ {after : List Char}, (∀ char ∈ after.head?, char = 'd') →
        ∀ char ∈ after.head?, (char != 'd') = false := by
      intro after begins char front
      rw [begins char front]
      rfl
    rw [fingerprintLine_toList, fingerprintLine_toList, List.append_assoc, List.append_assoc,
      List.cons_append, List.cons_append] at same
    obtain ⟨name, same⟩ := Framing.append_inj (· != ':') (nameInside first plain)
      (nameInside second otherPlain) (colonEnds _) (colonEnds _) same
    rw [List.cons.injEq, List.append_assoc, List.append_assoc, List.cons_append,
      List.cons_append] at same
    obtain ⟨size, same⟩ := Framing.append_inj (· != ':') (sizeInside _) (sizeInside _)
      (colonEnds _) (colonEnds _) same.2
    obtain ⟨time, behind⟩ := Framing.append_inj (· != 'd') (timeInside _) (timeInside _)
      (nextEnds starts) (nextEnds otherStarts) (List.cons.inj same).2
    refine ⟨?_, behind⟩
    have sameName := String.toList_inj.mp name
    have sameSize := UInt64.toNat_inj.mp (repr_injective (String.toList_inj.mp size))
    exact Prod.ext sameName (Prod.ext sameSize (secondsText_injective time))

theorem fingerprintLine_congr {first second : CrashArtifact}
    (same : first.identity = second.identity) : fingerprintLine first = fingerprintLine second := by
  rw [← String.toList_inj, fingerprintLine_toList, fingerprintLine_toList, same]
  have names : first.name = second.name := congrArg Prod.fst same
  have sizes : first.sizeBytes = second.sizeBytes := congrArg (fun key => key.2.1) same
  rw [names, sizes]

theorem fingerprintInput_congr {first second : List CrashArtifact}
    (same : first.map CrashArtifact.identity = second.map CrashArtifact.identity) :
    fingerprintInput first = fingerprintInput second := by
  induction first generalizing second with
  | nil =>
      rw [List.map_nil, eq_comm, List.map_eq_nil_iff] at same
      rw [same]
  | cons artifact rest ih =>
      obtain ⟨other, more, rfl, key, keys⟩ := List.map_eq_cons_iff.mp same.symm
      rw [fingerprintInput_cons, fingerprintInput_cons, fingerprintLine_congr key.symm,
        ih keys.symm]

theorem fingerprintInput_eq_iff {first second : List CrashArtifact}
    (plain : ∀ artifact ∈ first, artifact.IsPlain)
    (otherPlain : ∀ artifact ∈ second, artifact.IsPlain) :
    fingerprintInput first = fingerprintInput second ↔
      first.map CrashArtifact.identity = second.map CrashArtifact.identity := by
  refine ⟨?_, fingerprintInput_congr⟩
  intro same
  rw [fingerprintInput_eq, fingerprintInput_eq] at same
  have texts := String.ofList_injective (utf8Bytes_injective same)
  exact fingerprintLine_framed.flatMap_inj plain otherPlain texts

/-- The bytes that are hashed determine the files, so an acknowledgement of other files
applies only by a collision of the hash. -/
theorem fingerprint_input_decodable {first second : List CrashArtifact}
    (plain : ∀ artifact ∈ first, artifact.IsPlain)
    (otherPlain : ∀ artifact ∈ second, artifact.IsPlain) :
    (fingerprintInput first = fingerprintInput second ↔
      first.map CrashArtifact.identity = second.map CrashArtifact.identity) ∧
      ∀ (listing : PstoreListing) (clocks : ScanClocks),
        panicArtifacts clocks listing.entries = second →
        (CrashProbe.status listing clocks
          (acknowledgementFile (computeFingerprint first))).acknowledged = true →
        first.map CrashArtifact.identity = second.map CrashArtifact.identity ∨
          fingerprintInput first ≠ fingerprintInput second ∧
            (fingerprintInput first).foldl fnvStep fnvOffset =
              (fingerprintInput second).foldl fnvStep fnvOffset := by
  have decodes := fingerprintInput_eq_iff plain otherPlain
  refine ⟨decodes, ?_⟩
  intro listing clocks scanned acknowledged
  rw [← decodes]
  by_cases same : fingerprintInput first = fingerprintInput second
  · exact Or.inl same
  · refine Or.inr ⟨same, ?_⟩
    obtain ⟨fingerprint, stored, reported⟩ := (compareAcknowledged_iff _ _).mp acknowledged
    rw [acknowledgedFingerprint_acknowledgementFile] at stored
    rw [PstoreListing.pstore, scan_eq, statusOf] at reported
    dsimp only at reported
    split at reported
    · cases reported
    · rw [scanned, ← stored, Option.some.injEq] at reported
      rw [computeFingerprint_eq, computeFingerprint_eq] at reported
      exact (toHexU64_injective reported).symm

def undatedPanic : CrashArtifact := { name := "dmesg-ramoops-0", sizeBytes := 4096 }

def earlyPanic : CrashArtifact :=
  { name := "dump-type0", sizeBytes := 4096, mtime := some (seconds (-5)) }

theorem undatedPanic_first_distinct :
    undatedPanic.IsPlain ∧ earlyPanic.IsPlain ∧
      fingerprintInput [undatedPanic, earlyPanic] ≠
        fingerprintInput [earlyPanic, undatedPanic] := by
  have undated : undatedPanic.IsPlain := ⟨by decide, by decide⟩
  have early : earlyPanic.IsPlain := ⟨by decide, by decide⟩
  have plain : ∀ artifact ∈ [undatedPanic, earlyPanic], artifact.IsPlain := by
    intro artifact member
    rcases List.mem_pair.mp member with rfl | rfl
    · exact undated
    · exact early
  have otherPlain : ∀ artifact ∈ [earlyPanic, undatedPanic], artifact.IsPlain := by
    intro artifact member
    rcases List.mem_pair.mp member with rfl | rfl
    · exact early
    · exact undated
  refine ⟨undated, early, ?_⟩
  intro same
  have keys := (fingerprint_input_decodable plain otherPlain).1.mp same
  exact absurd keys (by decide)

end EdgeHealthd
