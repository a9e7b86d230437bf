import Kindred.Command.Session
import Kindred.Main
import Kindred.Proofs.Classify.Ancestry
import Kindred.Proofs.Classify.Reciprocity
import Kindred.Proofs.Classify.Evidence
import Kindred.Proofs.Phrase.Export
import Kindred.Proofs.Phrase.Viability
import Kindred.SexWord
import Kindred.Pedigree.QueueWalk
import Kindred.Proofs.Pedigree.QueueWalk
import Kindred.Proofs.Pedigree.PointerWalk
import Kindred.Proofs.Pedigree.Acyclic
import Kindred.Proofs.Family.Circles
import Kindred.Proofs.Record.Reading
import Kindred.Proofs.Family.Reading
import Kindred.Family.Editing
import Kindred.Proofs.Family.Editing
import Kindred.Proofs.Pedigree.Groups
import Kindred.Proofs.Pedigree.Rows
import Kindred.Proofs.Classify.Labels
import Kindred.Proofs.Classify.Renaming
import Kindred.Proofs.Classify.Growth
import Kindred.Proofs.Family.Growth
import Kindred.Proofs.Family.Removal
import Kindred.Proofs.Text.Normalization
import Kindred.Proofs.Report.RoundTrip
import Kindred.Proofs.IdSource.Repetition
import Kindred.Proofs.Pedigree.Ends
import Kindred.Proofs.Phrase.Lookups
import Kindred.Proofs.Pedigree.SharedWalk
