import SpeechConfig.Main
import SpeechConfig.Proofs.Artifact.DictionaryFields
import SpeechConfig.Proofs.Artifact.Entries
import SpeechConfig.Proofs.Artifact.GrammarReader
import SpeechConfig.Proofs.Artifact.InOrder
import SpeechConfig.Proofs.Generator.Success
import SpeechConfig.Proofs.FileSystem.Standing
import SpeechConfig.Proofs.Generator.Regeneration
import SpeechConfig.Proofs.CommandLine.DryRun
import SpeechConfig.Proofs.Vocabulary.InsertionOrder
import SpeechConfig.Proofs.Document.Requests
import SpeechConfig.Proofs.Settings.Saved
import SpeechConfig.Proofs.Generator.GrammarName
import SpeechConfig.Proofs.Generator.Independence
import SpeechConfig.Proofs.CommandLine.Precedence
import SpeechConfig.Proofs.CommandLine.Stages
import SpeechConfig.Proofs.Generator.CallRecord
import SpeechConfig.Proofs.Document.Bundles
import SpeechConfig.Proofs.Settings.Overriding
import SpeechConfig.Proofs.Compiler.Copying
import SpeechConfig.Proofs.Compiler.WorkDirectory
import SpeechConfig.Proofs.CommandLine.Groups
import SpeechConfig.Proofs.Vocabulary.MoreWords
import SpeechConfig.Proofs.Artifact.Separators
import SpeechConfig.Proofs.Vocabulary.OneLine
import SpeechConfig.Proofs.Compiler.ErrorTail
