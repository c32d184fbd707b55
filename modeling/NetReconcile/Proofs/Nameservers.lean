import NetReconcile.Nameservers
import NetReconcile.Proofs.Address.IPv6

/-!
# Reading back resolver files

A resolver file that is written for a list of nameservers names exactly these, in their order. It
has a line for each of them, which is the keyword, a blank and the address; no address has a blank
or a line end in it, so lines and fields are found where they were put.

## Main statements

* `IpAddress.ofChars?_chars`: an address of either family is read back.
* `parseNameservers_resolvConf`: a resolver file names the nameservers that it is written for.
-/

namespace NetReconcile

open Text

/-! ### Addresses of either family -/

namespace IpAddress

variable {a : IpAddress} {c : Char}

/-- An address is read back, and as one of its own family. -/
theorem ofChars?_chars (a : IpAddress) : ofChars? a.chars = some a := by
  cases a with
  | v4 x =>
    rw [ofChars?, chars, IPv4.ofChars?_chars, Option.map_some, Option.some_or]
  | v6 x =>
    have hnone : IPv4.ofChars? x.chars = none :=
      IPv4.ofChars?_eq_none_of_mem x.colon_mem_chars (by decide) rfl
    rw [ofChars?, chars, hnone, Option.map_none, Option.none_or, IPv6.ofChars?_chars,
      Option.map_some]

/-- Different addresses are written differently, also those of different families. -/
theorem text_injective : Function.Injective text := by
  intro a b htext
  have hchars : a.chars = b.chars := String.ofList_injective htext
  have hread := congrArg ofChars? hchars
  rw [ofChars?_chars, ofChars?_chars] at hread
  exact Option.some.inj hread

/-- No address has a blank in it. -/
theorem isBlank_of_mem_chars (hc : c ∈ a.chars) : isBlank c = false := by
  cases a with
  | v4 x => exact IPv4.isBlank_of_mem_chars hc
  | v6 x => exact IPv6.isBlank_of_mem_chars hc

theorem chars_ne_nil (a : IpAddress) : a.chars ≠ [] := by
  cases a with
  | v4 x => exact List.ne_nil_of_mem IPv4.dot_mem_chars
  | v6 x => exact List.ne_nil_of_mem x.colon_mem_chars

end IpAddress

/-! ### Lines of a resolver file -/

/-- The characters of a line that names a nameserver. -/
theorem toList_nameserverLine (server : IpAddress) :
    ("nameserver " ++ server.text).toList = "nameserver".toList ++ ' ' :: server.chars := by
  have hkeyword : "nameserver ".toList = "nameserver".toList ++ [' '] := by decide
  have htext : server.text.toList = server.chars := String.toList_ofList
  rw [String.toList_append, hkeyword, htext, List.append_assoc, List.singleton_append]

/-- The line of a nameserver is one line. -/
theorem newline_not_mem_nameserverLine (server : IpAddress) :
    '\n' ∉ ("nameserver " ++ server.text).toList := by
  rw [toList_nameserverLine]
  intro hmem
  rcases List.mem_append.1 hmem with hmem | hmem
  · revert hmem
    decide
  · rcases List.mem_cons.1 hmem with h | hmem
    · cases h
    · have hblank : isBlank '\n' = false := IpAddress.isBlank_of_mem_chars hmem
      cases hblank

/-- A line names the nameserver for which it is written. -/
theorem nameserverOfLine?_nameserverLine (server : IpAddress) :
    nameserverOfLine? ("nameserver " ++ server.text).toList = some server := by
  have hall : "nameserver".toList.all (!isBlank ·) = true := by decide
  have hkeyword : ∀ c ∈ "nameserver".toList, isBlank c = false :=
    fun c hc ↦ by simpa using List.all_eq_true.1 hall c hc
  have hfields : fields ("nameserver".toList ++ ' ' :: server.chars) =
      ["nameserver".toList, server.chars] :=
    fields_append_blank hkeyword (by decide) rfl (fun _ ↦ IpAddress.isBlank_of_mem_chars)
      server.chars_ne_nil
  rw [toList_nameserverLine, nameserverOfLine?, hfields]
  dsimp only
  rw [if_pos rfl, IpAddress.ofChars?_chars]

/-- A resolver file names the nameservers for which it is written, one by one and in order. -/
theorem parseNameservers_resolvConf (dns : List IpAddress) :
    parseNameservers (resolvConf dns) = dns := by
  have hlines : ∀ line ∈ dns.map fun server ↦ "nameserver " ++ server.text,
      '\n' ∉ line.toList := by
    intro line hline
    obtain ⟨server, -, rfl⟩ := List.mem_map.1 hline
    exact newline_not_mem_nameserverLine server
  have hread : (dns.map fun server ↦ "nameserver " ++ server.text).filterMap
      (nameserverOfLine? ·.toList) = dns := by
    rw [List.filterMap_map]
    have hsome : (fun server : IpAddress ↦
        nameserverOfLine? ("nameserver " ++ server.text).toList) = some :=
      funext nameserverOfLine?_nameserverLine
    exact (congrArg (dns.filterMap ·) hsome).trans List.filterMap_some
  rw [parseNameservers, resolvConf, splitOn_linesText hlines, List.filterMap_append,
    List.filterMap_map]
  -- the empty text after the last line end names nothing
  exact (List.append_nil _).trans hread

end NetReconcile
