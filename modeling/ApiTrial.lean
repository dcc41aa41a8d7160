import ApiTrial.Main
import ApiTrial.Proofs.AssertionRefuted
import ApiTrial.Proofs.AttemptsMade
import ApiTrial.Proofs.BuildShared
import ApiTrial.Proofs.CaptureAsserted
import ApiTrial.Proofs.CheckAlarms
import ApiTrial.Proofs.CommandVerdict
import ApiTrial.Proofs.EventParameters
import ApiTrial.Proofs.FilesFound
import ApiTrial.Proofs.HeaderPrecedence
import ApiTrial.Proofs.PresetShape
import ApiTrial.Proofs.RequestSerialised
import ApiTrial.Proofs.RetryCourse
import ApiTrial.Proofs.RevalidationRun
import ApiTrial.Proofs.StoreView
import ApiTrial.Proofs.TemplateFault
import ApiTrial.Proofs.TemplateSpelt
