import IntakeApi.Authentication
import IntakeApi.Sample

/-! Bodies that are read in chunks. The check of an uploaded object and the reader of Shared
Auth's responses are both bounded gathering, and so see nothing of how a body is cut. -/
namespace IntakeApi

/-- What the loop has fed to the digest, as a reading. -/
def Streamed.reading (last : Streamed) : Chunks.Reading ExternalError UInt8 := ⟨last.failure,last.digest,last.taken⟩

theorem stream_eq (sizeBytes : Nat) (digest : List UInt8) (chunks : List (Except Unit (List UInt8))) :
    (stream sizeBytes digest.length digest chunks).reading =
      Chunks.read (min sizeBytes maxUploadBytes) .unavailable .objectMismatch digest chunks := by
  induction chunks generalizing digest with
  | nil => rfl
  | cons chunk rest ih =>
    cases chunk with
    | error => rfl
    | ok chunk =>
      simp only [stream, Chunks.read]
      have small : maxUploadBytes < 2 ^ 64 := by decide
      by_cases passes : min sizeBytes maxUploadBytes < digest.length + chunk.length
      · rw [if_pos passes]
        split
        · rfl
        · rw [if_pos]
          · rfl
          · simp only [Bool.or_eq_true, decide_eq_true_eq]
            omega
      · rw [if_neg passes, if_neg (by omega), if_neg (by simp only [Bool.or_eq_true, decide_eq_true_eq]; omega),
          ← ih, List.length_append]
        rfl

/-- The verdict on a body that fits and is not broken, whatever its chunks. -/
theorem verifyBody_clean {contract : Contract} {expected : PendingUpload}
    {chunks : List (Except Unit (List UInt8))} (clean : Chunks.Clean chunks)
    (small : expected.sizeBytes ≤ maxUploadBytes) :
    verifyBody contract expected chunks =
      if (bodyOf chunks).length = expected.sizeBytes ∧
          lowerHex (contract.sha256 (bodyOf chunks)) = expected.expectedSha256 then .ok ()
      else .error .objectMismatch := by
  have gathered : (stream expected.sizeBytes 0 [] chunks).reading.result =
      if (bodyOf chunks).length ≤ expected.sizeBytes then .ok (bodyOf chunks) else .error .objectMismatch := by
    have read := stream_eq expected.sizeBytes [] chunks
    rw [List.length_nil, Nat.min_eq_left small] at read
    rw [read]
    exact Chunks.gather_clean clean (Nat.zero_le _)
  rw [verifyBody]
  by_cases fits : (bodyOf chunks).length ≤ expected.sizeBytes
  · rw [if_pos fits, Chunks.Reading.result_eq_ok] at gathered
    obtain ⟨finished,-⟩ := gathered
    obtain ⟨fed,counted⟩ := stream_ok List.length_nil.symm finished
    rw [List.nil_append] at fed counted
    rw [show (stream expected.sizeBytes 0 [] chunks).failure = none from finished, fed, counted]
    simp only [ne_eq, Bool.or_eq_true, decide_eq_true_eq]
    by_cases same : (bodyOf chunks).length = expected.sizeBytes ∧
        lowerHex (contract.sha256 (bodyOf chunks)) = expected.expectedSha256
    · rw [if_pos same, if_neg (by rw [← not_and_or]; exact not_not.mpr same)]
    · rw [if_neg same, if_pos (not_and_or.mp same)]
  · rw [if_neg fits, Chunks.Reading.result_eq_error] at gathered
    have other : ¬((bodyOf chunks).length = expected.sizeBytes ∧
        lowerHex (contract.sha256 (bodyOf chunks)) = expected.expectedSha256) := fun same =>
      fits (Nat.le_of_eq same.1)
    rw [show (stream expected.sizeBytes 0 [] chunks).failure = some .objectMismatch from gathered, if_neg other]

/-- Whatever the chunks, the loop is a bounded reading of them. -/
theorem stream_reads (sizeBytes : Nat) (chunks : List (Except Unit (List UInt8))) :
    Chunks.Reads (min sizeBytes maxUploadBytes) .unavailable .objectMismatch [] chunks
      (stream sizeBytes 0 [] chunks).reading := by
  have read := stream_eq sizeBytes [] chunks
  rw [List.length_nil] at read
  rw [read]
  exact Chunks.read_reads ..

theorem stream_fed (sizeBytes : Nat) (chunks : List (Except Unit (List UInt8))) :
    (stream sizeBytes 0 [] chunks).digest.length ≤ min sizeBytes maxUploadBytes := by
  have fits := @Chunks.read_fits _ _ (min sizeBytes maxUploadBytes) ExternalError.unavailable .objectMismatch []
    chunks (Nat.zero_le _)
  rw [← stream_eq] at fits
  exact fits

theorem stream_endless {sizeBytes n : Nat} (small : sizeBytes ≤ maxUploadBytes)
    {chunks : Nat → Except Unit (List UInt8)} (clean : Chunks.Clean (Chunks.upTo chunks (n + 1)))
    (fits : (bodyOf (Chunks.upTo chunks n)).length ≤ sizeBytes)
    (passes : sizeBytes < (bodyOf (Chunks.upTo chunks (n + 1))).length) :
    (stream sizeBytes 0 [] (Chunks.upTo chunks n)).reading = ⟨none,bodyOf (Chunks.upTo chunks n),n⟩ ∧
      ∀ m, n < m → (stream sizeBytes 0 [] (Chunks.upTo chunks m)).reading =
        ⟨some .objectMismatch,bodyOf (Chunks.upTo chunks n),n + 1⟩ := by
  have read (m : Nat) := stream_eq sizeBytes [] (Chunks.upTo chunks m)
  rw [List.length_nil, Nat.min_eq_left small] at read
  obtain ⟨before,after⟩ := @Chunks.read_endless _ _ _ ExternalError.unavailable .objectMismatch _ _ clean fits passes
  exact ⟨(read n).trans before,fun m later => (read m).trans (after m later)⟩

/-- The whole-object check: the response is what was declared of the object. -/
def ObjectResponse.declared (contract : Contract) (expected : PendingUpload) (response : ObjectResponse) : Bool :=
  response.isSuccess && response.contentType.map mimeType = some expected.contentType &&
    response.contentLength.all (· = expected.sizeBytes) && expected.sizeBytes ≤ maxUploadBytes &&
    (bodyOf response.chunks).length = expected.sizeBytes &&
    lowerHex (contract.sha256 (bodyOf response.chunks)) = expected.expectedSha256

/-- A check before another one that fails alike. -/
theorem check_before {α : Type} {p q : Prop} [Decidable p] [Decidable q] (pass fail : α) :
    (if p then fail else if q then pass else fail) = if ¬p ∧ q then pass else fail := by
  by_cases first : p <;> simp [first]

theorem verifyObject_clean {contract : Contract} {expected : PendingUpload} {response : ObjectResponse}
    (addressed : validateObjectKey expected.objectKey = true) (clean : Chunks.Clean response.chunks) :
    verifyObject contract expected (.ok response) =
      if response.declared contract expected then .ok () else .error .objectMismatch := by
  rw [verifyObject, addressed]
  simp only [Bool.not_true, Bool.false_eq_true, if_false]
  by_cases small : expected.sizeBytes ≤ maxUploadBytes
  · rw [if_neg (Nat.not_lt.mpr small), verifyBody_clean clean small, check_before, check_before, check_before]
    refine if_congr ?_ rfl rfl
    cases length : response.contentLength <;> simp [ObjectResponse.declared, small, length, and_assoc]
  · rw [if_pos (Nat.lt_of_not_le small), if_neg]
    simp [ObjectResponse.declared, small]

/-- Responses that differ in their chunks at most. -/
structure ObjectResponse.SameHead (a b : ObjectResponse) : Prop where
  status : a.status = b.status
  contentType : a.contentType = b.contentType
  contentLength : a.contentLength = b.contentLength

structure FirstPast (limit : Nat) (chunks : Nat → Except Unit (List UInt8)) (n : Nat) : Prop where
  clean : Chunks.Clean (Chunks.upTo chunks (n + 1))
  fits : (bodyOf (Chunks.upTo chunks n)).length ≤ limit
  passes : limit < (bodyOf (Chunks.upTo chunks (n + 1))).length

/-- Streaming sees whole bodies. An object is accepted exactly if it is what was declared, and its chunks
do not matter beyond what they carry. In every run, also in one that fails, the digest is fed with what was
taken before the chunk that is refused, and with no more than the declared bytes; however long a stream
is, the first chunk too many is the last one taken. So it is with the bounded response. -/
theorem streaming_is_whole (contract : Contract) (expected : PendingUpload)
    (addressed : validateObjectKey expected.objectKey = true) :
    (∀ response, Chunks.Clean response.chunks →
      (verifyObject contract expected (.ok response) = .ok () ↔
        (response.isSuccess = true ∧ response.contentType.map mimeType = some expected.contentType ∧
          (∀ length, response.contentLength = some length → length = expected.sizeBytes) ∧
          expected.sizeBytes ≤ 10 * 1024 * 1024 ∧ (bodyOf response.chunks).length = expected.sizeBytes ∧
          lowerHex (contract.sha256 (bodyOf response.chunks)) = expected.expectedSha256))) ∧
    (∀ a b : ObjectResponse, a.SameHead b → Chunks.Clean a.chunks → Chunks.Clean b.chunks →
      bodyOf a.chunks = bodyOf b.chunks →
      verifyObject contract expected (.ok a) = verifyObject contract expected (.ok b)) ∧
    (∀ chunks, (stream expected.sizeBytes 0 [] chunks).digest.length ≤ min expected.sizeBytes (10 * 1024 * 1024) ∧
      Chunks.Reads (min expected.sizeBytes (10 * 1024 * 1024)) .unavailable .objectMismatch [] chunks
        (stream expected.sizeBytes 0 [] chunks).reading) ∧
    (expected.sizeBytes ≤ 10 * 1024 * 1024 → ∀ chunks n, FirstPast expected.sizeBytes chunks n →
      (stream expected.sizeBytes 0 [] (Chunks.upTo chunks n)).failure = none ∧
        ∀ m, n < m → (stream expected.sizeBytes 0 [] (Chunks.upTo chunks m)).reading =
          ⟨some .objectMismatch,bodyOf (Chunks.upTo chunks n),n + 1⟩) ∧
    (∀ chunks, Chunks.Clean chunks → boundedResponse chunks =
      if (bodyOf chunks).length ≤ 1024 * 1024 then .ok (bodyOf chunks) else .error .invalid) ∧
    (∀ chunks, (readResponse [] chunks).held.length ≤ 1024 * 1024 ∧
      Chunks.Reads (1024 * 1024) .unavailable .invalid [] chunks (readResponse [] chunks)) ∧
    (∀ chunks n, FirstPast (1024 * 1024) chunks n → ∀ m, n < m →
      readResponse [] (Chunks.upTo chunks m) = ⟨some .invalid,bodyOf (Chunks.upTo chunks n),n + 1⟩) := by
  refine ⟨?_,?_,?_,?_,?_,?_,?_⟩
  · intro response clean
    rw [verifyObject_clean addressed clean]
    have accepted : (if response.declared contract expected = true then .ok ()
        else .error .objectMismatch : Except ExternalError Unit) = .ok () ↔
          response.declared contract expected = true := by
      cases response.declared contract expected <;> simp
    rw [accepted]
    simp only [ObjectResponse.declared, Bool.and_eq_true, decide_eq_true_eq, Option.all_eq_true, and_assoc]
    rfl
  · intro a b same clean clean' equal
    rw [verifyObject_clean addressed clean, verifyObject_clean addressed clean', ObjectResponse.declared,
      ObjectResponse.declared, ObjectResponse.isSuccess, ObjectResponse.isSuccess, same.status, same.contentType,
      same.contentLength, equal]
  · exact fun chunks => ⟨stream_fed _ chunks,stream_reads _ chunks⟩
  · intro small chunks n past
    obtain ⟨before,after⟩ := stream_endless small past.clean past.fits past.passes
    exact ⟨congrArg Chunks.Reading.failure before,after⟩
  · intro chunks clean
    rw [boundedResponse_eq, Chunks.gather_clean clean (Nat.zero_le _)]
    rfl
  · intro chunks
    rw [readResponse_eq]
    exact ⟨Chunks.read_fits (Nat.zero_le _),Chunks.read_reads ..⟩
  · intro chunks n past m later
    rw [readResponse_eq]
    exact (Chunks.read_endless past.clean past.fits past.passes).2 m later

namespace Sample

def declaration : PendingUpload :=
  ⟨2,"intake/resume/2",contentDigest .resume,"application/pdf",6,0⟩

/-- The declared object in three chunks, one of them empty. -/
def cut : ObjectResponse :=
  ⟨200,some "application/pdf; charset=binary",none,[.ok (asciiBytes "res"),.ok [],.ok (asciiBytes "ume")]⟩

end Sample

theorem streaming_is_whole_cut : verifyObject .sample Sample.declaration (.ok Sample.cut) = .ok () := by
  have facts : validateObjectKey Sample.declaration.objectKey = true ∧
      (∀ chunk ∈ Sample.cut.chunks, chunk.isOk = true) ∧
      Sample.cut.contentType.map mimeType = some Sample.declaration.contentType ∧
      (bodyOf Sample.cut.chunks).length = Sample.declaration.sizeBytes ∧
      lowerHex (Contract.sample.sha256 (bodyOf Sample.cut.chunks)) = Sample.declaration.expectedSha256 := by
    decide +kernel
  obtain ⟨addressed,clean,mime,size,digest⟩ := facts
  exact ((streaming_is_whole .sample _ addressed).1 Sample.cut clean).mpr
    ⟨rfl,mime,nofun,by decide,size,digest⟩

end IntakeApi
