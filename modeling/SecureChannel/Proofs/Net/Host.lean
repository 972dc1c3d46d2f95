import SecureChannel.Net.Host
import SecureChannel.Proofs.Net.Address

/-! Names of servers are read back from their text. -/
namespace SecureChannel

namespace Host

variable {name label : Bytes}

/-- All labels of a name are well formed, whether or not it ends in a dot. -/
theorem isLabel_of_isName (h : isName name = true) (hlabel : label ∈ name.splitOn dot)
    (hne : label ≠ []) : isLabel label = true := by
  simp only [isName, Bool.and_eq_true, areLabels] at h
  have hall := h.2.1
  rw [List.all_eq_true] at hall
  refine hall label ?_
  split
  · rename_i hlast
    obtain ⟨front, hfront⟩ := List.getLast?_eq_some_iff.mp hlast
    rw [hfront, List.mem_append] at hlabel
    rw [hfront, List.dropLast_concat]
    exact hlabel.resolve_right (by simpa using hne)
  · exact hlabel

theorem not_isName_of_colon (h : 0x3A ∈ name) : isName name = false := by
  refine Bool.eq_false_iff.mpr fun hname => ?_
  obtain ⟨label, hlabel, hcolon⟩ := (mem_splitOn (s := dot) (by decide)).mpr h
  have hvalid := isLabel_of_isName hname hlabel (List.ne_nil_of_mem hcolon)
  simp only [isLabel, decide_eq_true_eq] at hvalid
  exact absurd (List.all_eq_true.mp hvalid.2.2.1 _ hcolon) (by decide)

theorem not_isName_of_number (hlast : (name.splitOn dot).getLast? = some label) (hne : label ≠ [])
    (hdigits : label.all Bytes.isDigit = true) : isName name = false := by
  have hopen : (if (name.splitOn dot).getLast? = some [] then (name.splitOn dot).dropLast
      else name.splitOn dot) = name.splitOn dot := if_neg (by simpa [hlast] using hne)
  rw [isName, hopen, areLabels, hlast]
  simp [hdigits]

end Host

namespace Utf8

theorem mem_encode {text : List Char} {c : Char} {b : UInt8} (hc : c ∈ text)
    (hb : String.utf8EncodeChar c = [b]) : b ∈ encode text :=
  List.mem_flatMap.mpr ⟨c, hc, by simp [hb]⟩

theorem encode_intercalate {s : Char} {b : UInt8} (hs : String.utf8EncodeChar s = [b])
    (parts : List (List Char)) :
    encode ([s].intercalate parts) = [b].intercalate (parts.map encode) := by
  induction parts with
  | nil => rfl
  | cons part more ih =>
    cases more with
    | nil => simp
    | cons next others =>
      rw [List.map_cons] at ih
      simp only [List.map_cons, List.intercalate_cons_cons]
      rw [← ih]
      simp [encode, hs]

end Utf8

namespace IpAddress

open Nat (toDigits)

theorem encode_toDigits : ∀ n < 256, Utf8.encode (toDigits 10 n) ≠ [] ∧
    (Utf8.encode (toDigits 10 n)).all Bytes.isDigit = true := by
  decide +kernel

/-- No address is taken for the name of a host. -/
theorem not_isName_display (address : IpAddress) :
    Host.isName (Bytes.ofString address.display) = false := by
  rcases address.length_bytes with hfour | hsixteen
  · have hdisplay : address.display = dotted address.bytes := if_pos hfour
    have htext : Bytes.ofString address.display = [Host.dot].intercalate
        (address.bytes.map fun b => Utf8.encode (toDigits 10 b.toNat)) := by
      rw [hdisplay, Bytes.ofString, toList_dotted, Utf8.encode_intercalate (b := Host.dot) (by decide),
        List.map_map]
      rfl
    have hne : address.bytes ≠ [] := List.ne_nil_of_length_eq_add_one hfour
    have hlabels : (Bytes.ofString address.display).splitOn Host.dot =
        address.bytes.map fun b => Utf8.encode (toDigits 10 b.toNat) := by
      rw [htext, List.splitOn_intercalate _ _ (by simpa using hne)]
      simp only [List.mem_map, forall_exists_index, and_imp]
      rintro part b - rfl hdot
      have hdigits := (encode_toDigits b.toNat b.toNat_lt).2
      exact absurd (List.all_eq_true.mp hdigits _ hdot) (by decide)
    have hlast := encode_toDigits (address.bytes.getLast hne).toNat (UInt8.toNat_lt _)
    refine Host.not_isName_of_number ?_ hlast.1 hlast.2
    rw [hlabels, List.getLast?_map, List.getLast?_eq_some_getLast hne]
    rfl
  · exact Host.not_isName_of_colon
      (Utf8.mem_encode (colons?_display hsixteen).1 (by decide))

end IpAddress

namespace ServerName

variable {text : String} {name : ServerName}

/-- Names of hosts are well formed; every address may be asked for. -/
def IsValid : ServerName → Prop
  | .host name => Host.isName (Bytes.ofString name) = true
  | .address _ => True

instance : DecidablePred IsValid
  | .host name => inferInstanceAs (Decidable (Host.isName (Bytes.ofString name) = true))
  | .address _ => inferInstanceAs (Decidable True)

theorem isValid_of_parse? (h : parse? text = some name) : name.IsValid := by
  unfold parse? at h
  split at h
  · rename_i hname
    cases h
    exact hname
  · obtain ⟨ip, -, rfl⟩ := Option.map_eq_some_iff.mp h
    exact trivial

/-- A valid name is found again in its text. -/
theorem parse?_display (h : name.IsValid) : parse? name.display = some name := by
  cases name with
  | host name => exact if_pos h
  | address ip => simp [parse?, display, ip.not_isName_display, ip.parse?_display]

example : (ServerName.host "api.example.org").IsValid := by decide +kernel

end ServerName
end SecureChannel
