import ClusterSurvey.Credential.Client

/-!
# The identity of a client

A client is made of three texts.  The key and the certificate are joined to one text before they are read,
each on lines of its own, so the sections of both are found in it whether or not the key ends its last
line.
-/

namespace ClusterSurvey

namespace Pem

variable {current : Option (String × List Char)} {front back : List (List Char)}
variable {ss : List Section}

/-- What a line makes of the reading. -/
private theorem readLines_cons (current : Option (String × List Char)) (line : List Char)
    (rest : List (List Char)) :
    readLines current (line :: rest) =
      match beginning? line with
      | some (.error e) => .error e
      | some (.ok label) => readLines (some (label, (current.map (·.2)).getD [])) rest
      | none =>
        match current with
        | none => readLines none rest
        | some (label, content) =>
          if isEnd label line then
            match kindOf? label with
            | none => readLines none rest
            | some kind =>
              match decode? (content.filter (!isFiller ·)) with
              | none => .error .badContent
              | some octets => (readLines none rest).map (⟨kind, ⟨octets.toArray⟩⟩ :: ·)
          else readLines (some (label, content ++ line)) rest := by
  cases current <;> rfl

/-- What is read behind lines that have been read to their end. -/
theorem readLines_append (h : readLines current front = .ok ss) :
    readLines current (front ++ back) = (readLines none back).map (ss ++ ·) := by
  induction front generalizing current ss with
  | nil =>
    cases current with
    | some state => cases h
    | none =>
      cases h
      rw [List.nil_append]
      cases readLines none back <;> rfl
  | cons line rest ih =>
    rw [List.cons_append, readLines_cons]
    rw [readLines_cons] at h
    split at h
    · cases h
    · exact ih h
    · split at h
      · exact ih h
      · split at h
        · next hend =>
          rw [if_pos hend]
          split at h
          · exact ih h
          · split at h
            · cases h
            · cases hr : readLines none rest with
              | error e =>
                rw [hr] at h
                cases h
              | ok more =>
                rw [hr] at h
                cases h
                rw [ih hr]
                cases readLines none back <;> rfl
        · next hend =>
          rw [if_neg hend]
          exact ih h

/-- An empty line at the end makes no difference. -/
theorem readLines_concat_nil (current : Option (String × List Char)) (lines : List (List Char)) :
    readLines current (lines ++ [[]]) = readLines current lines := by
  induction lines generalizing current with
  | nil =>
    cases current with
    | none => rfl
    | some state =>
      obtain ⟨label, content⟩ := state
      have hend : isEnd label [] = false := rfl
      rw [List.nil_append, readLines_cons]
      show (if isEnd label [] then _ else _) = _
      rw [hend]
      rfl
  | cons line rest ih => simp only [List.cons_append, readLines_cons, ih]

/-- The lines of two texts with an end of line between them. -/
theorem linesOf_append (s t : String) : linesOf (s ++ "\n" ++ t) = linesOf s ++ linesOf t := by
  have hlist : (s ++ "\n" ++ t).toList = s.toList ++ '\n' :: t.toList := by
    simp [String.toList_append]
  rw [linesOf, hlist, List.map_append, List.map_cons]
  exact Text.splitAt_append_cons '\n' _ _

/-- The sections of two texts with an end of line between them. -/
theorem sections_append {s : String} (t : String) (h : sections s = .ok ss) :
    sections (s ++ "\n" ++ t) = (sections t).map (ss ++ ·) := by
  rw [sections, linesOf_append]
  exact readLines_append h

/-- An end of line at the end of a text makes no difference. -/
theorem sections_append_newline (s : String) : sections (s ++ "\n") = sections s := by
  have hlines : linesOf (s ++ "\n") = linesOf s ++ [[]] := by
    have happend := linesOf_append s ""
    rwa [String.append_empty] at happend
  rw [sections, hlines, readLines_concat_nil]
  rfl

end Pem

namespace Client

variable {certificate key : String}

/-- The sections of the identity are those of the key and then those of the certificate. -/
theorem sections_joinIdentity {keys certificates : List Pem.Section}
    (hkey : Pem.sections key = .ok keys) (hcertificate : Pem.sections certificate = .ok certificates) :
    Pem.sections (joinIdentity certificate key) = .ok (keys ++ certificates) := by
  have joined (front : String) (h : Pem.sections front = .ok keys) :
      Pem.sections (front ++ "\n" ++ certificate) = .ok (keys ++ certificates) := by
    rw [Pem.sections_append certificate h, hcertificate]
    rfl
  unfold joinIdentity
  split
  · next hends =>
    obtain ⟨front, rfl⟩ := Text.exists_append_of_endsWith hends
    rw [Pem.sections_append_newline] at hkey
    rw [String.append_empty]
    exact joined front hkey
  · exact joined key hkey

/-- A text with one certificate and a text with one key make an identity of the two. -/
theorem readIdentity_joinIdentity {certOctets keyOctets : ByteArray}
    (hkey : Pem.sections key = .ok [⟨.privateKey, keyOctets⟩])
    (hcertificate : Pem.sections certificate = .ok [⟨.certificate, certOctets⟩]) :
    readIdentity (joinIdentity certificate key) = .ok (certOctets, keyOctets) := by
  unfold readIdentity
  rw [sections_joinIdentity hkey hcertificate]
  rfl

/-- What is made of texts that can be read: a client, if the key goes with the certificate. -/
theorem ofTexts_eq {e : Encoding} {root : String} {roots : List Certificate} {c : Certificate}
    {k : KeyPair} {certOctets keyOctets : ByteArray} (hroots : readRoots e root = .ok roots)
    (hcertificate : Pem.sections certificate = .ok [⟨.certificate, certOctets⟩])
    (hc : e.certificate? certOctets = some c)
    (hkey : Pem.sections key = .ok [⟨.privateKey, keyOctets⟩]) (hk : e.key? keyOctets = some k) :
    ofTexts e root certificate key =
      if c.key = k then .ok ⟨roots, ⟨c, k⟩⟩ else .error .foreignKey := by
  unfold ofTexts
  rw [readIdentity_joinIdentity hkey hcertificate]
  simp only [bind, Except.bind, hroots, hk, hc]
  rfl

end Client

end ClusterSurvey
