import Fieldwise.Operation.Basic
import Fieldwise.Validation

/-! # Operations in documents

An operation is a record of its kind, the names of two schemas and a sequence of correspondences. -/

namespace Fieldwise

def Correspondence.ofDatum (datum : Datum) : Checked Correspondence := do
  let entries ← datum.checkRecord "Correspondence"
  Datum.closed ["source_field", "target_field", "kind"] entries <|
    ((Datum.required entries "source_field" Datum.checkText).both
      ((Datum.required entries "target_field" Datum.checkText).both
        (Datum.required entries "kind"
          (Datum.checkChoice (MatchKind.all.map fun kind => (kind.value, kind)))))).map
      fun (source, target, kind) => ⟨source, target, kind⟩

namespace Operation

def check (datum : Datum) : Checked Operation := do
  let entries ← datum.checkRecord "OperationDescriptor"
  Datum.closed ["kind", "source_schema", "target_schema", "correspondences"] entries <|
    ((Datum.required entries "kind"
        (Datum.checkChoice (OperationKind.all.map fun kind => (kind.value, kind)))).both
      ((Datum.required entries "source_schema" Datum.checkText).both
        ((Datum.required entries "target_schema" Datum.checkText).both
          (Datum.defaulted entries "correspondences" []
            (Datum.checkItems Correspondence.ofDatum))))).map
      fun (kind, source, target, correspondences) => ⟨kind, source, target, correspondences⟩

def ofDatum (datum : Datum) : Except Invalid Operation :=
  (check datum).named "OperationDescriptor"

end Operation

end Fieldwise
