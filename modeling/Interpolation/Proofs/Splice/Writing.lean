import Interpolation.Proofs.Extraction.Pieces
import Interpolation.Proofs.Splice.Work
import Interpolation.Proofs.Text.Encoding
import Mathlib

/-!
# Splicing into a sink

All that is asked of a sink is that it adds to what was written before: all of a chunk, or some
first part of one that it refuses. What has been written is then the spliced text or a first part of
it, and an error is that of the splicing, before which nothing is written, or that of the sink
(`Engine.run_spliceTo`).
-/

namespace Interpolation

open Text

variable {σ ω : Type}

namespace Sink

/-- A chunk that the sink takes is written after what was written before, and of one that it refuses
a first part is. -/
structure Appends (sink : Sink ω) (written : ω → List UInt8) : Prop where
  ok : ∀ {chunk out out'}, sink.write chunk out = (.ok (), out') →
    written out' = written out ++ octets chunk
  error : ∀ {chunk out reason out'}, sink.write chunk out = (.error reason, out') →
    ∃ part, part <+: octets chunk ∧ written out' = written out ++ part

/-- The error of a sink that gave a reason. -/
def refusal (reason : String) : Error := ⟨.sink reason, none, [reason]⟩

/-- The sink takes some of `chunks` and refuses the one after them, for `reason`. -/
def RefusesAfter (sink : Sink ω) (chunks : List String) (out : ω) (reason : String) (out' : ω) :
    Prop :=
  ∃ taken chunk rest before, chunks = taken ++ chunk :: rest ∧
  sink.writeAll taken out = (.ok (), before) ∧
    sink.write chunk before = (.error reason, out')

theorem octets_join_nil : octets (String.join []) = [] := by
  rw [octets_eq_encode, String.join_nil, String.toList_empty, encode_nil]

theorem octets_join_cons (chunk : String) (chunks : List String) :
    octets (String.join (chunk :: chunks)) = octets chunk ++ octets (String.join chunks) := by
  simp only [octets_eq_encode, String.join_cons, String.toList_append, encode_append]

section
variable {sink : Sink ω} {written : ω → List UInt8} {chunk reason : String}
    {chunks : List String} {out out' : ω}

theorem writeAll_cons_of_ok (h : sink.write chunk out = (.ok (), out')) :
    sink.writeAll (chunk :: chunks) out = sink.writeAll chunks out' := by
  rw [writeAll, h]

theorem writeAll_cons_of_error (h : sink.write chunk out = (.error reason, out')) :
    sink.writeAll (chunk :: chunks) out = (.error (refusal reason), out') := by
  rw [writeAll, h]
  rfl

/-- Chunks that are all taken are all written. -/
theorem written_of_writeAll (hs : sink.Appends written)
    (h : sink.writeAll chunks out = (.ok (), out')) :
    written out' = written out ++ octets (String.join chunks) := by
  induction chunks generalizing out with
  | nil =>
    cases h
    rw [octets_join_nil, List.append_nil]
  | cons chunk chunks ih =>
    rcases hw : sink.write chunk out with ⟨reason | _, next⟩
    · rw [writeAll_cons_of_error hw] at h
      cases h
    · rw [writeAll_cons_of_ok hw] at h
      rw [ih h, hs.ok hw, octets_join_cons, List.append_assoc]

/-- Of chunks that are not all taken, those before the refused one are written, and of that one a
first part. -/
theorem refused_of_writeAll (hs : sink.Appends written) {err : Error}
    (h : sink.writeAll chunks out = (.error err, out')) :
    ∃ reason, err = refusal reason ∧ sink.RefusesAfter chunks out reason out' ∧
      ∃ part, part <+: octets (String.join chunks) ∧ written out' = written out ++ part := by
  induction chunks generalizing out with
  | nil => cases h
  | cons chunk chunks ih =>
    rcases hw : sink.write chunk out with ⟨reason | _, next⟩
    · rw [writeAll_cons_of_error hw] at h
      cases h
      obtain ⟨part, hpart, hwritten⟩ := hs.error hw
      refine ⟨reason, rfl, ⟨[], chunk, chunks, out, rfl, rfl, hw⟩, part, ?_, hwritten⟩
      rw [octets_join_cons]
      exact hpart.trans (List.prefix_append ..)
    · rw [writeAll_cons_of_ok hw] at h
      obtain ⟨reason, rfl, ⟨taken, refused, rest, before, rfl, htaken, hrefused⟩, part,
        hpart, hwritten⟩ := ih h
      refine ⟨reason, rfl, ⟨chunk :: taken, refused, rest, before, rfl, ?_, hrefused⟩,
        octets chunk ++ part, ?_, ?_⟩
      · rw [writeAll_cons_of_ok hw, htaken]
      · rw [octets_join_cons]
        exact (List.prefix_append_right_inj _).2 hpart
      · rw [hwritten, hs.ok hw, List.append_assoc]

end

end Sink

namespace Engine

variable {e : Engine σ} {c : Context} {text : String} {s : σ} {w : Work σ}

theorem run_splice_of_chunks {r : Except Error (List String)}
    (h : (e.chunks c.get? e.maxDepth text).run ⟨c.cache, s⟩ = (r, w)) :
    (e.splice c text).run s = ((r.map String.join, { c with cache := w.cache }), w.host) := by
  rw [splice, Context.run_splicing, run_map, h]

theorem run_spliceTo_of_error {err : Error}
    (h : (e.chunks c.get? e.maxDepth text).run ⟨c.cache, s⟩ = (.error err, w)) (sink : Sink ω)
    (out : ω) :
    (e.spliceTo sink c text out).run s = ((.error err, out,
      { c with cache := w.cache }), w.host) := by
  rw [spliceTo, StateT.run_bind, Context.run_splicing, h]
  rfl

theorem run_spliceTo_of_ok {chunks : List String}
    (h : (e.chunks c.get? e.maxDepth text).run ⟨c.cache, s⟩ = (.ok chunks, w)) (sink : Sink ω)
    (out : ω) :
    (e.spliceTo sink c text out).run s =
      (((sink.writeAll chunks out).1, (sink.writeAll chunks out).2,
        { c with cache := w.cache }), w.host) := by
  rw [spliceTo, StateT.run_bind, Context.run_splicing, h]
  rfl

/-- **Splicing into a sink is splicing to a text and writing it.** Context and host end in the same
state. An error of the splicing is the error of both, and then the sink is as it was. A spliced text
is written in full, or the sink refuses a part of it (`Sink.RefusesAfter`): that is the error then,
with the reason of the sink as its cause, and a first part of the text is written. -/
theorem run_spliceTo (e : Engine σ) {sink : Sink ω} {written : ω → List UInt8}
    (hs : sink.Appends written) (c : Context) (text : String) (out : ω) (s : σ)
    {r : Except Error String} {c' : Context} {s' : σ}
    (h : (e.splice c text).run s = ((r, c'), s')) :
    (∀ err, r = .error err → (e.spliceTo sink c text out).run s = ((.error err, out, c'), s')) ∧
    ∀ spliced, r = .ok spliced → ∃ out',
      (e.spliceTo sink c text out).run s = ((.ok (), out', c'), s') ∧
      written out' = written out ++ octets spliced ∨
      ∃ err chunks reason, (e.spliceTo sink c text out).run s = ((.error err, out', c'), s') ∧
        err.kind = .output ∧ err.causes = [reason] ∧ String.join chunks = spliced ∧
        sink.RefusesAfter chunks out reason out' ∧
        ∃ part, part <+: octets spliced ∧ written out' = written out ++ part := by
  rcases hchunks : (e.chunks c.get? e.maxDepth text).run ⟨c.cache, s⟩ with ⟨err | chunks, w⟩
  · rw [run_splice_of_chunks hchunks] at h
    cases h
    refine ⟨fun err' herr => ?_, fun spliced hspliced => ?_⟩
    · cases herr
      exact run_spliceTo_of_error hchunks sink out
    · cases hspliced
  · rw [run_splice_of_chunks hchunks] at h
    cases h
    refine ⟨fun err herr => ?_, fun spliced hspliced => ?_⟩
    · cases herr
    · cases hspliced
      rw [run_spliceTo_of_ok hchunks sink out]
      rcases hw : sink.writeAll chunks out with ⟨err | _, out'⟩
      · obtain ⟨reason, rfl, hrefused, hpart⟩ := Sink.refused_of_writeAll hs hw
        exact ⟨out', .inr ⟨_, chunks, reason, rfl, rfl, rfl, rfl, hrefused, hpart⟩⟩
      · exact ⟨out', .inl ⟨rfl, Sink.written_of_writeAll hs hw⟩⟩

end Engine

/-- A sink that has room for `room` bytes. Of a chunk that is too long it writes what fits. -/
def Sink.bounded (room : Nat) : Sink (List UInt8) where
  write chunk out :=
    if out.length + (octets chunk).length ≤ room then (.ok (), out ++ octets chunk)
    else (.error "no space left", out ++ (octets chunk).take (room - out.length))

theorem Sink.bounded_appends (room : Nat) : (Sink.bounded room).Appends id where
  ok h := by
    unfold bounded at h
    dsimp only at h
    split at h
    · cases h
      rfl
    · cases h
  error h := by
    unfold bounded at h
    dsimp only at h
    split at h
    · cases h
    · cases h
      exact ⟨_, List.take_prefix .., rfl⟩

/-- A value of three bytes and room for two: the text is spliced, and of its last character half is
written. -/
theorem Engine.run_spliceTo_bounded :
    let e := Engine.new Host.echo
    let c : Context := ⟨0, Table.empty.insert "A" (.str "aé"), [], ∅⟩
    ∃ err c' out', (e.splice c "[A]").run () = ((.ok "aé", c'), ()) ∧
      (e.spliceTo (Sink.bounded 2) c "[A]" []).run () = ((.error err, out', c'), ()) ∧
      err.causes = ["no space left"] ∧
      out' <+: octets "aé" := by
  intro e c
  have hextract : e.delimiters.extract "[A]" = _ :=
    Delimiters.extract_square ['A'] rfl (by simp) rfl
  have hchunks : (e.chunks c.get? e.maxDepth "[A]").run ⟨c.cache, ()⟩ =
      (.ok ["", "aé", ""], ⟨Table.empty.insert "[A]" (.str "aé"), ()⟩) := by
    rw [show e.maxDepth = 5 + 1 from rfl, Engine.chunks, Engine.level, hextract]
    cbv
  have hjoin : String.join ["", "aé", ""] = "aé" := by cbv
  have hsplice := Engine.run_splice_of_chunks hchunks
  rw [Except.map, hjoin] at hsplice
  have hfull : (Sink.bounded 2).writeAll ["", "aé", ""] [] =
      (.error (Sink.refusal "no space left"), [0x61, 0xC3]) := by
    cbv
  have hrun := Engine.run_spliceTo_of_ok hchunks (Sink.bounded 2) []
  rw [hfull] at hrun
  obtain ⟨-, hspliced⟩ := Engine.run_spliceTo e (Sink.bounded_appends 2) c "[A]" [] () hsplice
  obtain ⟨out', ⟨hok, -⟩ | ⟨err, -, reason, herr, -, hcauses, -, -, part, hpart, hwritten⟩⟩ :=
    hspliced "aé" rfl
  · rw [hrun] at hok
    cases hok
  · rw [hrun] at herr
    cases herr
    refine ⟨_, _, _, hsplice, hrun, rfl, ?_⟩
    have hout : [0x61, 0xC3] = part := hwritten
    exact hout ▸ hpart

end Interpolation
